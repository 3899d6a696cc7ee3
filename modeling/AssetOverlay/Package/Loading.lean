import AssetOverlay.File.Tree
import AssetOverlay.Log
import AssetOverlay.Package.Entry

/-!
# Loading assets

Reads and decodes the file that a manifest entry, or the host, names.
-/

namespace AssetOverlay

/-- What trying to load an asset yields: the notes made on the way, and the asset or the reason why
there is none. -/
structure Attempt where
  notes : List Script.Note
  outcome : Except Fault Asset

namespace Attempt

/-- An attempt that failed without notes. -/
def failed (fault : Fault) : Attempt :=
  ⟨[], .error fault⟩

/-- An attempt during something else, which is part of every fault. -/
def during (activity : Activity) (attempt : Attempt) : Attempt :=
  { attempt with outcome := attempt.outcome.mapError (Fault.during activity) }

/-- The events of an attempt as such. -/
def events (attempt : Attempt) : List Event :=
  attempt.notes.map Event.script ++
    match attempt.outcome with
    | .ok asset => [.assetLoaded asset.kind asset.source asset.key]
    | .error _ => []

end Attempt

/-- The decoded content of a file, with the notes made on the way. -/
def Entry.decode (entry : Entry) (path : Path) (bytes : Bytes) :
    List Script.Note × Except Fault Content :=
  match entry.kind with
  | .script =>
    let prepared := Script.prepare (Key.ofName entry.name) bytes (entry.hooks.map Key.ofName)
    match prepared.outcome with
    | .ok script => (prepared.notes, .ok (.script script))
    | .error failure => (prepared.notes, .error ⟨[.preparingScript path], .script failure⟩)
  | .rawFile => ([], .ok (.rawFile bytes))
  | .luaFile => ([], .ok (.luaFile bytes))
  | .stringTable =>
    match StringTable.read bytes with
    | .ok table => ([], .ok (.stringTable table))
    | .error failure => ([], .error ⟨[.decodingTable path], .table failure⟩)

/-- Loads the asset that an entry in a folder declares. -/
def Entry.load (entry : Entry) (files : FileTree) (folder : Path) : Attempt :=
  let path := entry.resolve folder
  match files.read path with
  | .error failure => .failed ⟨[.readingAsset entry.kind path], .file failure⟩
  | .ok bytes =>
    match entry.decode path bytes with
    | (notes, .ok content) => ⟨notes, .ok ⟨Key.ofName entry.name, path, content⟩⟩
    | (notes, .error fault) => ⟨notes, .error fault⟩

/-- Loads what an item of the data list of a manifest declares. -/
def loadItem (files : FileTree) (folder : Path) (item : Json.Tree) : Attempt :=
  match Entry.ofTree item with
  | .error problem => .failed ⟨[.decodingEntry], .json (.ofProblem problem)⟩
  | .ok entry => (entry.load files folder).during (.loadingEntry entry.name)

/-- Loads a file as a raw file under the given key. -/
def loadRawFile (files : FileTree) (path : Path) (key : Key) : Except Fault Asset :=
  match files.read path with
  | .error failure => .error ⟨[.readingRawFile path], .file failure⟩
  | .ok bytes => .ok ⟨key, path, .rawFile bytes⟩

end AssetOverlay

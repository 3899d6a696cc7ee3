import AssetOverlay.Path
import AssetOverlay.Script
import AssetOverlay.StringTable

/-!
# Assets

An asset of a package replaces an asset of the game, or adds to them.  It has a kind, a key and the
path of the file that it was read from.
-/

namespace AssetOverlay

/-- The kinds of asset that a package can supply. -/
inductive AssetKind where
  | script
  | rawFile
  | luaFile
  | stringTable
deriving DecidableEq, Hashable

namespace AssetKind

/-- All kinds. -/
def all : List AssetKind :=
  [script, rawFile, luaFile, stringTable]

/-- The name of a kind in manifests and messages. -/
def name : AssetKind → String
  | script => "scriptparsetree"
  | rawFile => "rawfile"
  | luaFile => "luafile"
  | stringTable => "stringtable"

/-- The kind with the given name, in which the case of ASCII letters does not count. -/
def ofName? (text : String) : Option AssetKind :=
  all.find? fun kind ↦ kind.name.toList == text.toList.map Char.toLower

end AssetKind

/-- The decoded content of an asset.  Raw files and Lua files are kept as they were read. -/
inductive Content where
  | script (script : Script)
  | rawFile (bytes : Bytes)
  | luaFile (bytes : Bytes)
  | stringTable (table : StringTable)
deriving DecidableEq

/-- An asset. -/
structure Asset where
  /-- The key by which the game looks it up. -/
  key : Key
  /-- The file that it was read from. -/
  source : Path
  content : Content
deriving DecidableEq

namespace Asset

def kind (asset : Asset) : AssetKind :=
  match asset.content with
  | .script _ => .script
  | .rawFile _ => .rawFile
  | .luaFile _ => .luaFile
  | .stringTable _ => .stringTable

/-- The script that an asset holds. -/
def script? (asset : Asset) : Option Script :=
  match asset.content with
  | .script script => some script
  | _ => none

/-- The bytes that are handed to the game.  A table is decoded and has none. -/
def bytes? (asset : Asset) : Option Bytes :=
  match asset.content with
  | .script script => some script.code
  | .rawFile bytes | .luaFile bytes => some bytes
  | .stringTable _ => none

end Asset

end AssetOverlay

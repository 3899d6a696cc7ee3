import AssetOverlay.Detour.Block
import AssetOverlay.Script.Imports

/-!
# Compiled scripts

A compiled script starts with a header of 96 bytes, of which these values matter:

* the magic number, a 64-bit word at 0;
* the key of the script's name, a 64-bit word at 16;
* the import count at 40 and the offset of the import table at 56.

A script that a package supplies is prepared once, when it is loaded.  Its block of detours is taken
off, the header and the ranges of the detours are checked, the name in the header becomes the name
of the script that it stands in for, and its intrinsics are redirected.
-/

namespace AssetOverlay

/-- A compiled script, ready to be handed to the game. -/
structure Script where
  /-- The script that it stands in for. -/
  name : Key
  /-- The bytes as the game sees them. -/
  code : Bytes
  /-- The scripts that cause this one to be linked beside them, each once, in ascending order. -/
  hooks : List Key
  /-- The functions that it replaces. -/
  detours : List Detour
deriving DecidableEq

namespace Script

/-- The first eight bytes of every compiled script, as a word. -/
def magic : UInt64 := 0x36000a0d43534780

/-- The size of the header. -/
def headerSize : Nat := 96

/-- Where the header holds the name. -/
def nameOffset : Nat := 16

/-- The name that a buffer presents, if it reaches to the end of the name. -/
def nameOf? (buffer : Bytes) : Option Key :=
  if nameOffset + 8 ≤ buffer.length then some ⟨buffer.word64At nameOffset⟩ else none

/-- Why a script can't be prepared. -/
inductive Failure where
  /-- The block of detours can't be read. -/
  | block (failure : Block.Failure)
  /-- What follows the block, of this length, is no compiled script. -/
  | magic (length : Nat)
  /-- A detour names code outside of the script, which has this length. -/
  | detourOutside (detour : Detour) (length : Nat)
deriving DecidableEq

def Failure.message : Failure → String
  | block failure => failure.message
  | magic length =>
    "bad scriptparsetree magic (" ++ toString length ++ " bytes after GSIC block)"
  | detourOutside detour length =>
    "detour " ++ detour.text ++ " points outside of the script (" ++ toString length ++ " bytes)"

/-- What is worth noting while a script is prepared. -/
inductive Note where
  /-- A detour was read. -/
  | detourRead (detour : Detour)
  /-- The block held this many detours. -/
  | detoursLoaded (count : Nat)
  /-- The offset of the import table is negative. -/
  | tableNegative (offset : Int)
  /-- An import of so many lies past the end. -/
  | importPastEnd (overrun : Imports.Overrun) (count : Nat)
  /-- So many imports of this script were redirected. -/
  | importsRedirected (count : Nat) (name : Key)
deriving DecidableEq

def Note.message : Note → String
  | detourRead detour => "read detour " ++ detour.text
  | detoursLoaded count => "loaded " ++ toString count ++ " detours"
  | tableNegative offset => "import table offset " ++ toString offset ++ " is negative"
  | importPastEnd overrun count =>
    "import " ++ toString overrun.index ++ " of " ++ toString count ++ " at " ++
      Hex.marked overrun.position ++ " is past the end of the script"
  | importsRedirected count name =>
    "redirected " ++ toString count ++ " compiler import(s) in script_" ++ name.text

/-- Checks what follows the block: the header is there, and every detour names code inside. -/
def check (body : Bytes) (detours : List Detour) : Except Failure Unit :=
  if headerSize ≤ body.length ∧ body.word64At 0 = magic then
    match detours.find? fun detour ↦ decide (body.length < detour.codeStop) with
    | some detour => .error (.detourOutside detour body.length)
    | none => .ok ()
  else .error (.magic body.length)

/-- The body of a script under the name of the script that it stands in for. -/
def rename (name : Key) (body : Bytes) : Bytes :=
  body.overwrite nameOffset (Bytes.ofWord64 name.value)

/-- The notes about walking the import table of a renamed body. -/
def importNotes (name : Key) (renamed : Bytes) : List Note :=
  let walked := Imports.redirectAll renamed
  (if Imports.table renamed < 0 then [.tableNegative (Imports.table renamed)] else []) ++
    (walked.overrun.map fun overrun ↦ .importPastEnd overrun (Imports.count renamed)).toList ++
    (if walked.redirected = 0 then [] else [.importsRedirected walked.redirected name])

/-- What preparing a script yields: the notes made on the way, and the script or the reason why
there is none. -/
structure Preparation where
  notes : List Note
  outcome : Except Failure Script

/-- Prepares a buffer for use as the script of the given name. -/
def prepare (name : Key) (buffer : Bytes) (hooks : List Key) : Preparation :=
  let reading := Block.read buffer
  let read := reading.detours.map Note.detourRead
  match reading.outcome with
  | .error failure => ⟨read, .error (.block failure)⟩
  | .ok size =>
    let body := buffer.drop size
    let loaded :=
      if reading.detours = [] then read
      else read ++ [.detoursLoaded reading.detours.length]
    match check body reading.detours with
    | .error failure => ⟨loaded, .error failure⟩
    | .ok () =>
      let renamed := rename name body
      ⟨loaded ++ importNotes name renamed,
        .ok ⟨name, (Imports.redirectAll renamed).bytes, Key.sortedSet hooks, reading.detours⟩⟩

/-- Whether this script is linked whenever the given one is. -/
def hooksInto (script : Script) (linked : Key) : Bool :=
  script.hooks.contains linked

/-- Every detour whose code lies inside the script, with that code. -/
def resolvedDetours (script : Script) : List (Detour × Bytes) :=
  script.detours.filterMap fun detour ↦
    (detour.code? script.code).map fun code ↦ (detour, code)

end Script

end AssetOverlay

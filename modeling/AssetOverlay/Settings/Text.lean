import AssetOverlay.Bytes
import AssetOverlay.Settings

/-!
# The text of settings

Settings are written as a JSON object over several lines, two blanks deep, with a member for every
path that is set and for both flags.
-/

namespace AssetOverlay.Settings

/-- A character inside the quotes of a JSON text. -/
def escape (character : Char) : List Char :=
  match character with
  | '"' => ['\\', '"']
  | '\\' => ['\\', '\\']
  | '\x08' => ['\\', 'b']
  | '\x0c' => ['\\', 'f']
  | '\n' => ['\\', 'n']
  | '\r' => ['\\', 'r']
  | '\t' => ['\\', 't']
  | other =>
    if other.toNat < 32 then
      ['\\', 'u', '0', '0', Nat.digitChar (other.toNat / 16), Nat.digitChar (other.toNat % 16)]
    else [other]

/-- A JSON text. -/
def quote (text : String) : List Char :=
  '"' :: text.toList.flatMap escape ++ ['"']

/-- A member on a line of its own. -/
def member (name : String) (value : List Char) : List Char :=
  ' ' :: ' ' :: quote name ++ ':' :: ' ' :: value

/-- A flag. -/
def flag (value : Bool) : List Char :=
  if value then "true".toList else "false".toList

/-- The members that are written. -/
def members (settings : Settings) : List (List Char) :=
  (settings.packageFolder.map fun path ↦ member "mods_dir" (quote path.text)).toList ++
    (settings.logFile.map fun path ↦ member "log_file" (quote path.text)).toList ++
    [member "verbose" (flag settings.verbose),
      member "load_on_start" (flag settings.loadOnStart)]

/-- The text of settings. -/
def text (settings : Settings) : String :=
  String.ofList ('\x7b' :: '\n' :: [',', '\n'].intercalate settings.members ++ ['\n', '\x7d'])

/-- The bytes of settings as they are saved. -/
def toBytes (settings : Settings) : Bytes :=
  Bytes.ofText settings.text

end AssetOverlay.Settings

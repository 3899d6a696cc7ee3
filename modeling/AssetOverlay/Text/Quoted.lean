import AssetOverlay.Text.Hex
import AssetOverlay.Text.Hidden

/-!
# Texts shown in quotes

Messages show a path or a foreign text between double quotes.  Quotes and backslashes in it are
marked with a backslash, the common controls have their letters, and every other hidden character is
shown by its code point.
-/

namespace AssetOverlay.Quoted

/-- How one character is shown. -/
def escape (character : Char) : List Char :=
  match character with
  | '"' => ['\\', '"']
  | '\\' => ['\\', '\\']
  | '\n' => ['\\', 'n']
  | '\r' => ['\\', 'r']
  | '\t' => ['\\', 't']
  | '\x00' => ['\\', '0']
  | other =>
    if Hidden.isHidden other then
      ['\\', 'u', '\x7b'] ++ Nat.toDigits 16 other.toNat ++ ['\x7d']
    else [other]

/-- A text in quotes. -/
def render (text : String) : String :=
  String.ofList ('"' :: text.toList.flatMap escape ++ ['"'])

end AssetOverlay.Quoted

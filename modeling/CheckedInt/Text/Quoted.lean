import CheckedInt.Text.CharacterClass

/-!
# Quoted text

`quoted` writes a text between double quotes on one line: the quote, the backslash and the common
controls have two-character escapes, and any other character that is not plain is written by its
code point. An apostrophe is plain.
-/

namespace CheckedInt.Text

/-- A code point in hexadecimal between braces. -/
def codePointEscape (c : Char) : List Char :=
  ['\\', 'u', '\x7b'] ++ Nat.toDigits 16 c.toNat ++ ['\x7d']

/-- How a character is written between quotes. -/
def escape (c : Char) : List Char :=
  match c with
  | '\x00' => ['\\', '0']
  | '\t' => ['\\', 't']
  | '\n' => ['\\', 'n']
  | '\r' => ['\\', 'r']
  | '"' => ['\\', '"']
  | '\\' => ['\\', '\\']
  | c => if isPlain c then [c] else codePointEscape c

/-- The text between quotes, on one line. -/
def quoted (s : String) : String :=
  "\"" ++ String.ofList (s.toList.flatMap escape) ++ "\""

end CheckedInt.Text

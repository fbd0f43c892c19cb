import ScanRoster.Text.Lowercase
import ScanRoster.Text.Quoted.Table

/-!
# Quoted texts

Quoting for messages: a text stands between quotation marks, and characters that cannot be seen
are written as escapes.
-/

namespace ScanRoster.Text

namespace Quoted

/-- Lower-case hexadecimal digits of a number. -/
def hex (n : Nat) : List Char :=
  Nat.toDigits 16 n

/-- One character between quotation marks. -/
def encodeChar (c : Char) : List Char :=
  if c == '\x00' then ['\\', '0']
  else if c == '\t' then ['\\', 't']
  else if c == '\r' then ['\\', 'r']
  else if c == '\n' then ['\\', 'n']
  else if c == '"' then ['\\', '"']
  else if c == '\\' then ['\\', '\\']
  else if 0x20 ≤ c.toNat && c.toNat < 0x7F then [c]
  else if inRuns hiddenRuns c then ['\\', 'u', '\x7b'] ++ hex c.toNat ++ ['\x7d']
  else [c]

end Quoted

/-- A text between quotation marks, with escapes for what cannot be seen. -/
def quoted (s : String) : String :=
  String.ofList ('"' :: s.toList.flatMap Quoted.encodeChar ++ ['"'])

end ScanRoster.Text

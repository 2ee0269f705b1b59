import Chip8.Text.Unprintable

/-!
# Quoted text

Text between double quotes, as diagnostics show it: quotes, backslashes and the common controls
are escaped by a backslash, and other unprintable characters by their code point.
-/

namespace Chip8.Text

/-- A character as it stands between the quotes. -/
def escaped (c : Char) : List Char :=
  match c with
  | '"' => ['\\', '"']
  | '\\' => ['\\', '\\']
  | '\n' => ['\\', 'n']
  | '\r' => ['\\', 'r']
  | '\t' => ['\\', 't']
  | '\x00' => ['\\', '0']
  | c =>
    if isUnprintable c then
      ['\\', 'u', '\x7b'] ++ Nat.toDigits 16 c.toNat ++ ['\x7d']
    else [c]

def quoted (s : String) : String := String.ofList ('"' :: s.toList.flatMap escaped ++ ['"'])

end Chip8.Text

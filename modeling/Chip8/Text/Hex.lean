/-!
# Hexadecimal text

Upper-case hexadecimal numerals, as diagnostics write addresses, words and bytes.
-/

namespace Chip8.Text

/-- Upper-case hexadecimal digits of `n`, with zeros in front up to a width of `width`. -/
def upperHex (width n : Nat) : String :=
  let digits := (Nat.toDigits 16 n).map Char.toUpper
  String.ofList (List.replicate (width - digits.length) '0' ++ digits)

example : upperHex 3 0x2A = "02A" := by decide +kernel
example : upperHex 4 0x12345 = "12345" := by decide +kernel

end Chip8.Text

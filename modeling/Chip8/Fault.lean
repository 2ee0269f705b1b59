import Chip8.Text.Hex

/-!
# Faults

The conditions that stop the machine. Each one is found before anything is written, so the state
beside a fault is the state in which it was found.
-/

namespace Chip8

/-- Why the machine stopped, or why an operation on one of its parts was refused. -/
inductive Fault
  /-- A call with every level of the call stack in use. -/
  | stackOverflow (target : UInt16)
  /-- A return with no level of the call stack in use. -/
  | stackUnderflow
  /-- An access whose first missing byte is `address`. -/
  | addressOutOfRange (address : Nat)
  /-- The font has one glyph per hexadecimal digit, and `value` is none. -/
  | invalidGlyph (value : UInt8)
  | keyOutOfRange (key : UInt8)
  /-- A cycle of a machine that has already stopped. -/
  | halted
  deriving DecidableEq, Repr

namespace Fault

def message : Fault → String
  | stackOverflow target =>
    "stack overflow: call to 0x" ++ Text.upperHex 3 target.toNat ++ " with all 16 levels in use"
  | stackUnderflow => "stack underflow: return with an empty call stack"
  | addressOutOfRange address =>
    "memory access out of bounds at address 0x" ++ Text.upperHex 4 address
  | invalidGlyph value => "no font glyph for value 0x" ++ Text.upperHex 2 value.toNat
  | keyOutOfRange key => "keypad has no line 0x" ++ Text.upperHex 2 key.toNat
  | halted => "machine is halted"

end Fault

end Chip8

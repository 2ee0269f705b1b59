import Chip8.Registers

/-!
# Instructions

What the 65536 words mean. A word splits into four nibbles; the first one, and for some families
the last one or two, choose the instruction, and the others are its operands: registers `x` and
`y`, a byte `kk`, a height `n`, an address `nnn`. Operands are typed by their width, so an
instruction holds only registers and addresses that exist. Words that are no instruction decode to
`unknown`.
-/

namespace Chip8

/-- A twelve-bit address, as an instruction can carry it. -/
abbrev Address := Fin 4096

theorem toNat_ofNat_address (target : Address) : (UInt16.ofNat target).toNat = target := by
  rw [UInt16.toNat_ofNat']
  omega

inductive Instruction
  | clearScreen
  /-- Comes back from the innermost call. -/
  | ret
  | jump (target : Address)
  | call (target : Address)
  | skipIfByte (x : Register) (kk : UInt8)
  | skipUnlessByte (x : Register) (kk : UInt8)
  | skipIfSame (x y : Register)
  | skipUnlessSame (x y : Register)
  | setByte (x : Register) (kk : UInt8)
  | addByte (x : Register) (kk : UInt8)
  | copy (x y : Register)
  | or (x y : Register)
  | and (x y : Register)
  | xor (x y : Register)
  | add (x y : Register)
  /-- Vx becomes Vx - Vy. -/
  | subtract (x y : Register)
  | shiftRight (x : Register)
  /-- Vx becomes Vy - Vx. -/
  | subtractFrom (x y : Register)
  | shiftLeft (x : Register)
  | setIndex (target : Address)
  /-- Jumps to the target plus V0. -/
  | jumpOffset (target : Address)
  | random (x : Register) (kk : UInt8)
  | draw (x y : Register) (height : Fin 16)
  | skipIfPressed (x : Register)
  | skipUnlessPressed (x : Register)
  | readDelay (x : Register)
  | awaitKey (x : Register)
  | setDelay (x : Register)
  | setSound (x : Register)
  | addIndex (x : Register)
  /-- Points the index at the glyph of the digit in Vx. -/
  | pointGlyph (x : Register)
  | storeDecimal (x : Register)
  | storeRegisters (x : Register)
  | loadRegisters (x : Register)
  | unknown (word : UInt16)
  deriving DecidableEq, Repr

namespace Word

/-- The first nibble. -/
def family (w : UInt16) : Fin 16 := ⟨w.toNat / 0x1000 % 16, Nat.mod_lt _ (by decide)⟩

def x (w : UInt16) : Register := ⟨w.toNat / 0x100 % 16, Nat.mod_lt _ (by decide)⟩

def y (w : UInt16) : Register := ⟨w.toNat / 0x10 % 16, Nat.mod_lt _ (by decide)⟩

/-- The last nibble. -/
def n (w : UInt16) : Fin 16 := ⟨w.toNat % 16, Nat.mod_lt _ (by decide)⟩

/-- The last byte. -/
def kk (w : UInt16) : UInt8 := w.toUInt8

/-- The last three nibbles. -/
def nnn (w : UInt16) : Address := ⟨w.toNat % 0x1000, Nat.mod_lt _ (by decide)⟩

/-- The word with the nibbles that are operands in its family set to zero. Family 0 has no operands:
its two instructions are whole words. -/
def pattern (w : UInt16) : UInt16 :=
  match family w with
  | 0x0 => w
  | 0x8 | 0x9 => w &&& 0xF00F
  | 0xE | 0xF => w &&& 0xF0FF
  | _ => w &&& 0xF000

end Word

namespace Instruction

open Word in
/-- The instruction that a word stands for. -/
def decode (w : UInt16) : Instruction :=
  match pattern w with
  | 0x00E0 => clearScreen
  | 0x00EE => ret
  | 0x1000 => jump (nnn w)
  | 0x2000 => call (nnn w)
  | 0x3000 => skipIfByte (x w) (kk w)
  | 0x4000 => skipUnlessByte (x w) (kk w)
  | 0x5000 => skipIfSame (x w) (y w)
  | 0x6000 => setByte (x w) (kk w)
  | 0x7000 => addByte (x w) (kk w)
  | 0x8000 => copy (x w) (y w)
  | 0x8001 => or (x w) (y w)
  | 0x8002 => and (x w) (y w)
  | 0x8003 => xor (x w) (y w)
  | 0x8004 => add (x w) (y w)
  | 0x8005 => subtract (x w) (y w)
  | 0x8006 => shiftRight (x w)
  | 0x8007 => subtractFrom (x w) (y w)
  | 0x800E => shiftLeft (x w)
  | 0x9000 => skipUnlessSame (x w) (y w)
  | 0xA000 => setIndex (nnn w)
  | 0xB000 => jumpOffset (nnn w)
  | 0xC000 => random (x w) (kk w)
  | 0xD000 => draw (x w) (y w) (n w)
  | 0xE09E => skipIfPressed (x w)
  | 0xE0A1 => skipUnlessPressed (x w)
  | 0xF007 => readDelay (x w)
  | 0xF00A => awaitKey (x w)
  | 0xF015 => setDelay (x w)
  | 0xF018 => setSound (x w)
  | 0xF01E => addIndex (x w)
  | 0xF029 => pointGlyph (x w)
  | 0xF033 => storeDecimal (x w)
  | 0xF055 => storeRegisters (x w)
  | 0xF065 => loadRegisters (x w)
  | _ => unknown w

end Instruction

end Chip8

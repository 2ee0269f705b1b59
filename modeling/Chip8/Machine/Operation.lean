import Chip8.Machine.Execute

/-!
# Operations

A word spells operands of one, two or three nibbles. Whoever executes an instruction without a word
can give it others: a target is any 16-bit number, a height any byte, and so is the last register of
a block, which counts the bytes to move. All other registers are named by the low nibble of a byte,
so there is nothing to widen.

Some of these operations have no result: a jump past the last 16-bit number, and the store of a
register past VF where memory has room for it.
-/

namespace Chip8

inductive Operation
  /-- An instruction with operands that a word can spell. -/
  | instruction (i : Instruction)
  | jump (target : UInt16)
  | call (target : UInt16)
  | setIndex (target : UInt16)
  /-- Jumps to the target plus V0. -/
  | jumpOffset (target : UInt16)
  | draw (x y : Register) (height : UInt8)
  | storeRegisters (last : UInt8)
  | loadRegisters (last : UInt8)
  deriving DecidableEq, Repr

/-- The operation that an instruction is when its operands are given their full width. -/
def Instruction.widened : Instruction → Operation
  | .jump target => .jump (UInt16.ofNat target)
  | .call target => .call (UInt16.ofNat target)
  | .setIndex target => .setIndex (UInt16.ofNat target)
  | .jumpOffset target => .jumpOffset (UInt16.ofNat target)
  | .draw x y height => .draw x y (UInt8.ofNat height)
  | .storeRegisters x => .storeRegisters (UInt8.ofNat x)
  | .loadRegisters x => .loadRegisters (UInt8.ofNat x)
  | i => .instruction i

namespace Machine

/-- Jumps to the target plus V0, if that is a 16-bit number. -/
def jumpOffset (m : Machine) (target : UInt16) : Option (Except Fault Unit × Machine) :=
  let offset := m.registers.get .first
  if target.toNat + offset.toNat < UInt16.size then
    some (done { m with pc := target + offset.toUInt16 })
  else none

/-- Writes `count` registers at the index. That memory has room for them is looked at before the
registers are. -/
def storeCount (m : Machine) (count : Nat) : Option (Except Fault Unit × Machine) :=
  if memorySize < m.index.toNat + count then
    some (.error (Memory.blockFault m.index.toNat), m)
  else if count ≤ 16 then some (m.storeAtIndex (m.registers.values.toList.take count))
  else none

/-- Reads `count` bytes from the index on into the registers, going around after VF. -/
def loadCount (m : Machine) (count : Nat) : Except Fault Unit × Machine :=
  m.attempt (m.memory.block m.index.toNat count) fun values =>
    done { m with registers := m.registers.loadFrom 0 values }

/-- The effect of an operation, if it has a result. -/
def operate (m : Machine) : Operation → Option (Except Fault Unit × Machine)
  | .instruction i => some (m.execute i)
  | .jump target => some (done { m with pc := target })
  | .call target => some (m.enterCall target)
  | .setIndex target => some (done { m with index := target })
  | .jumpOffset target => m.jumpOffset target
  | .draw x y height => some (m.drawSprite x y height.toNat)
  | .storeRegisters last => m.storeCount (last.toNat + 1)
  | .loadRegisters last => some (m.loadCount (last.toNat + 1))

end Machine

end Chip8

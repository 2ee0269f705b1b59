import Chip8.Memory

/-!
# Ranges of machine size

Block access by a start and a length that are both 64-bit words, as a caller outside the machine
gives them. The end of such a range is itself a 64-bit sum, so there are two refusals: the sum
does not exist (`endOverflow`, a mistake of the caller that is no fault of the machine), or the
range does not lie in memory (a fault, as for any block).
-/

namespace Chip8

structure Range where
  start : UInt64
  len : UInt64
  deriving DecidableEq, Repr

inductive RangeError
  /-- `start + len` is not a 64-bit number. -/
  | endOverflow
  | fault (f : Fault)
  deriving DecidableEq, Repr

namespace Range

/-- The address after the last one, if it is a 64-bit number. -/
def stop? (r : Range) : Option Nat :=
  if r.start.toNat + r.len.toNat < UInt64.size then some (r.start.toNat + r.len.toNat) else none

end Range

namespace Memory

def readRange (m : Memory) (r : Range) : Except RangeError (List UInt8) :=
  match r.stop? with
  | none => .error .endOverflow
  | some _ => (m.block r.start.toNat r.len.toNat).mapError .fault

/-- Sets every byte of the range to `value`. The range is checked before the bytes are made, so a
huge length costs nothing. -/
def fillRange (m : Memory) (r : Range) (value : UInt8) : Except RangeError Memory :=
  match r.stop? with
  | none => .error .endOverflow
  | some stop =>
    if stop ≤ memorySize then .ok (m.write r.start.toNat (List.replicate r.len.toNat value))
    else .error (.fault (blockFault r.start.toNat))

end Memory

end Chip8

import Chip8.Memory.Range

/-!
# Memory as one bounded store

Single bytes and ranges are read and written by calls whose addresses and lengths are 64-bit words. A
call that does not fit changes nothing (`call_of_outside`, `call_of_overflows`), and what a call
leaves at an address is what it stores there, or the old byte (`getElem_call`). So after any sequence
of calls each byte is the one that the last successful write put there (`getElem_afterCalls`), and
that is what the next call reads (`memoryCalls_exact`).

A range whose end is no 64-bit number is a mistake of the caller, and the call stops there instead of
answering with a fault (`lastByte_overflows`).
-/

namespace Chip8

inductive MemoryCall
  | get (address : UInt64)
  | set (address : UInt64) (value : UInt8)
  | slice (range : Range)
  /-- Sets every byte of the range to the value. -/
  | fill (range : Range) (value : UInt8)
  deriving DecidableEq, Repr

namespace MemoryCall

def start : MemoryCall → Nat
  | get address | set address _ => address.toNat
  | slice range | fill range _ => range.start.toNat

/-- The number of bytes that the call is about. -/
def length : MemoryCall → Nat
  | get _ | set .. => 1
  | slice range | fill range _ => range.len.toNat

/-- The value that the call writes, if it is a write. -/
def written : MemoryCall → Option UInt8
  | get _ | slice _ => none
  | set _ value | fill _ value => some value

/-- The call does not reach past memory. The sum is exact. -/
def Fits (c : MemoryCall) : Prop := c.start + c.length ≤ memorySize

/-- The end of the range is no 64-bit number. A single address has no end to compute. -/
def Overflows : MemoryCall → Prop
  | get _ | set .. => False
  | slice range | fill range _ => UInt64.size ≤ range.start.toNat + range.len.toNat

/-- The address that a refusal names. -/
def named : MemoryCall → Nat
  | get address | set address _ => address.toNat
  | slice range | fill range _ => max memorySize range.start.toNat

instance (c : MemoryCall) : Decidable c.Fits := inferInstanceAs (Decidable (_ ≤ _))

/-- The byte that the call puts at an address, if it is a write that fits and covers the address. -/
def stores (c : MemoryCall) (a : Nat) : Option UInt8 :=
  if c.Fits ∧ c.start ≤ a ∧ a < c.start + c.length then c.written else none

/-- The byte that the last successful write to an address has put there. -/
def lastStored (calls : List MemoryCall) (a : Nat) : Option UInt8 :=
  calls.reverse.findSome? fun c => c.stores a

variable {c : MemoryCall}

theorem not_overflows_of_fits (fits : c.Fits) : ¬ c.Overflows := by
  cases c with
  | get | set => exact id
  | slice range | fill range =>
    simp only [Fits, start, length, memorySize] at fits
    simp only [Overflows, UInt64.size]
    omega

theorem lastStored_cons (c : MemoryCall) (calls : List MemoryCall) (a : Nat) :
    lastStored (c :: calls) a = (lastStored calls a).or (c.stores a) := by
  simp [lastStored]

end MemoryCall

namespace Memory

open MemoryCall

variable {m : Memory} {c : MemoryCall}

/-- What a call answers, which for a write is nothing, and the memory that it leaves behind. -/
def call (m : Memory) : MemoryCall → Except RangeError (List UInt8) × Memory
  | .get address => (((m.get address.toNat).map fun v => [v]).mapError .fault, m)
  | .set address value =>
    match m.set address.toNat value with
    | .error f => (.error (.fault f), m)
    | .ok after => (.ok [], after)
  | .slice range => (m.readRange range, m)
  | .fill range value =>
    match m.fillRange range value with
    | .error e => (.error e, m)
    | .ok after => (.ok [], after)

/-- The memory after calls one after the other. -/
def afterCalls (m : Memory) (calls : List MemoryCall) : Memory :=
  calls.foldl (fun m c => (m.call c).2) m

/-! ## One call -/

/-- The bytes of the call's range, if it reads them. -/
def bytesFor (m : Memory) (c : MemoryCall) : List UInt8 :=
  match c.written with
  | none => (m.bytes.toList.drop c.start).take c.length
  | some _ => []

/-- The memory with the call's value in its range, if it writes one. -/
def storedBy (m : Memory) (c : MemoryCall) : Memory :=
  match c.written with
  | none => m
  | some value => m.write c.start (List.replicate c.length value)

theorem set_of_inside {address : Nat} (inside : address < memorySize) (value : UInt8) :
    m.set address value = .ok (m.write address [value]) := by
  rw [set, dif_pos inside]
  refine congrArg Except.ok (ext_getElem fun a below => ?_)
  rw [write, write, Vector.getElem_set, Vector.getElem_setIfInBounds]

theorem call_of_fits (fits : c.Fits) : m.call c = (.ok (m.bytesFor c), m.storedBy c) := by
  have small := not_overflows_of_fits fits
  cases c with
  | get address =>
    have inside : address.toNat < memorySize := fits
    simp only [call, get, dif_pos inside, bytesFor, storedBy, written, start, length]
    rw [List.drop_eq_getElem_cons (by simpa using inside)]
    rfl
  | set address value =>
    have inside : address.toNat < memorySize := fits
    simp only [call, set_of_inside inside]
    rfl
  | slice range =>
    simp only [Overflows, Nat.not_le] at small
    have inside : range.start.toNat + range.len.toNat ≤ memorySize := fits
    simp only [call, readRange, Range.stop?, if_pos small, m.block_of_fits inside]
    rfl
  | fill range value =>
    have inside : range.start.toNat + range.len.toNat ≤ memorySize := fits
    simp only [Overflows, Nat.not_le] at small
    simp only [call, fillRange, Range.stop?, if_pos small, if_pos inside]
    rfl

/-- A refused call names the first byte that is missing and changes nothing. -/
theorem call_of_outside (outside : ¬ c.Fits) (small : ¬ c.Overflows) :
    m.call c = (.error (.fault (.addressOutOfRange c.named)), m) := by
  cases c with
  | get address | set address value =>
    have missing : ¬ address.toNat < memorySize := outside
    simp only [call, get, set, dif_neg missing]
    rfl
  | slice range =>
    simp only [Overflows, Nat.not_le] at small
    have cut : m.block range.start.toNat range.len.toNat = _ :=
      block_eq_error_iff.mpr ⟨Nat.lt_of_not_le outside, rfl⟩
    simp only [call, readRange, Range.stop?, if_pos small, cut]
    rfl
  | fill range value =>
    have cut : ¬ range.start.toNat + range.len.toNat ≤ memorySize := outside
    simp only [Overflows, Nat.not_le] at small
    simp only [call, fillRange, Range.stop?, if_pos small, if_neg cut]
    rfl

theorem call_of_overflows (large : c.Overflows) : m.call c = (.error .endOverflow, m) := by
  cases c with
  | get | set => exact large.elim
  | slice range | fill range value =>
    simp only [Overflows] at large
    simp only [call, readRange, fillRange, Range.stop?, if_neg (Nat.not_lt.mpr large)]

theorem getElem_storedBy (c : MemoryCall) {a : Nat} (inside : a < memorySize) (fits : c.Fits) :
    (m.storedBy c).bytes[a] = (c.stores a).getD m.bytes[a] := by
  unfold storedBy stores
  cases c.written with
  | none => simp
  | some value =>
    simp only [getElem_write, fits, true_and]
    by_cases above : c.start ≤ a
    · by_cases below : a - c.start < c.length
      · have covered : a < c.start + c.length := by omega
        simp [above, covered, below]
      · have past : ¬ a < c.start + c.length := by omega
        simp [above, past, below]
    · simp [above]

/-- What a call leaves at an address. -/
theorem getElem_call (c : MemoryCall) {a : Nat} (inside : a < memorySize) :
    (m.call c).2.bytes[a] = (c.stores a).getD m.bytes[a] := by
  by_cases fits : c.Fits
  · simp only [call_of_fits fits]
    exact getElem_storedBy c inside fits
  · have none : c.stores a = none := if_neg fun both => fits both.1
    rw [none, Option.getD_none]
    by_cases large : c.Overflows
    · simp only [call_of_overflows large]
    · simp only [call_of_outside fits large]

/-! ## Sequences of calls -/

theorem getElem_afterCalls (m : Memory) (calls : List MemoryCall) {a : Nat}
    (inside : a < memorySize) :
    (m.afterCalls calls).bytes[a] = (lastStored calls a).getD m.bytes[a] := by
  induction calls generalizing m with
  | nil => rfl
  | cons c calls ih =>
    have later := ih (m.call c).2
    rw [getElem_call c inside] at later
    rw [afterCalls, List.foldl_cons, ← afterCalls, later, lastStored_cons]
    cases lastStored calls a <;> rfl

/-- What a call answers and leaves behind when `calls` came before it, the first of them on the memory
`initial`. -/
structure CallSettled (initial : Memory) (calls : List MemoryCall) (c : MemoryCall) : Prop where
  succeeds : (∃ values, ((initial.afterCalls calls).call c).1 = .ok values) ↔ c.Fits
  refused : ¬ c.Fits → ¬ c.Overflows → (initial.afterCalls calls).call c =
    (.error (.fault (.addressOutOfRange c.named)), initial.afterCalls calls)
  overflows : c.Overflows →
    (initial.afterCalls calls).call c = (.error .endOverflow, initial.afterCalls calls)
  /-- A read gives for each address the byte written last, or the initial one. -/
  reads : ∀ values, c.written = none → ((initial.afterCalls calls).call c).1 = .ok values →
    values.length = c.length ∧ ∀ k < c.length,
      values[k]? = (lastStored calls (c.start + k)).or initial.bytes[c.start + k]?

theorem fits_of_call_ok {values : List UInt8} (success : (m.call c).1 = .ok values) : c.Fits := by
  refine Decidable.byContradiction fun outside => ?_
  by_cases large : c.Overflows
  · rw [call_of_overflows large] at success
    cases success
  · rw [call_of_outside outside large] at success
    cases success

theorem getElem?_bytesFor (initial : Memory) (calls : List MemoryCall) (fits : c.Fits)
    (read : c.written = none) {k : Nat} (inside : k < c.length) :
    ((initial.afterCalls calls).bytesFor c)[k]? =
      (lastStored calls (c.start + k)).or initial.bytes[c.start + k]? := by
  have present : c.start + k < memorySize := by
    rw [Fits] at fits
    omega
  have held := initial.getElem_afterCalls calls present
  simp only [bytesFor, read, List.getElem?_take, inside, if_true, List.getElem?_drop,
    Vector.getElem?_toList, Vector.getElem?_eq_getElem present, held]
  cases lastStored calls (c.start + k) <;> rfl

/-- Every call in a sequence of calls, on any memory and with any 64-bit addresses and lengths. It
succeeds exactly if its range lies within memory; else it is refused and changes nothing, with the
fault that names the first missing address unless the end of the range is no 64-bit number. A read
that succeeds gives the bytes that were written last. -/
theorem memoryCalls_exact (initial : Memory) (calls : List MemoryCall) (c : MemoryCall) :
    CallSettled initial calls c where
  succeeds := by
    constructor
    · rintro ⟨values, success⟩
      exact fits_of_call_ok success
    · intro fits
      rw [call_of_fits fits]
      exact ⟨_, rfl⟩
  refused := fun outside small => call_of_outside outside small
  overflows := fun large => call_of_overflows large
  reads := by
    intro values read success
    have fits := fits_of_call_ok success
    rw [call_of_fits fits] at success
    cases success
    refine ⟨?_, fun k inside => getElem?_bytesFor initial calls fits read inside⟩
    rw [Fits] at fits
    simp only [bytesFor, read, List.length_take, List.length_drop, Vector.length_toList]
    omega

/-- One byte at the greatest address lies outside memory, and still the call does not answer with the
fault that would name it. -/
theorem lastByte_overflows :
    ¬ (slice ⟨0xFFFFFFFFFFFFFFFF, 1⟩).Fits ∧
      blank.call (slice ⟨0xFFFFFFFFFFFFFFFF, 1⟩) = (.error .endOverflow, blank) ∧
      (blank.call (slice ⟨0xFFFFFFFFFFFFFFFF, 1⟩)).1 ≠
        .error (.fault (.addressOutOfRange 0xFFFFFFFFFFFFFFFF)) := by
  have large : (slice ⟨0xFFFFFFFFFFFFFFFF, 1⟩).Overflows := by
    simp only [Overflows, UInt64.size]
    decide
  refine ⟨by decide, call_of_overflows large, ?_⟩
  rw [call_of_overflows large]
  simp

end Memory

end Chip8

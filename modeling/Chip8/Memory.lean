import Chip8.Fault

/-!
# Memory

The 4096 bytes that programs, sprites and the font share. Single bytes and blocks are read and
written through bounds checks; a refused access names the first address that is missing and
changes nothing. What a write does to later reads is said byte by byte (`getElem_write`).
-/

namespace Chip8

/-- The number of bytes of memory. -/
abbrev memorySize : Nat := 4096

structure Memory where
  bytes : Vector UInt8 memorySize
  deriving DecidableEq, Repr

namespace Memory

def blank : Memory := ⟨Vector.replicate memorySize 0⟩

def get (m : Memory) (address : Nat) : Except Fault UInt8 :=
  if h : address < memorySize then .ok m.bytes[address] else .error (.addressOutOfRange address)

def set (m : Memory) (address : Nat) (value : UInt8) : Except Fault Memory :=
  if h : address < memorySize then .ok ⟨m.bytes.set address value⟩
  else .error (.addressOutOfRange address)

/-- A block that does not fit lacks the byte after the last one, or its own first byte if that is
already outside. -/
def blockFault (address : Nat) : Fault := .addressOutOfRange (max memorySize address)

/-- The `len` bytes from `address` on. -/
def block (m : Memory) (address len : Nat) : Except Fault (List UInt8) :=
  if h : address + len ≤ memorySize then
    .ok (List.ofFn fun k : Fin len => m.bytes[address + k.val])
  else .error (blockFault address)

/-- Writes `values` at consecutive addresses from `address` on, leaving out those outside memory. -/
def write (m : Memory) (address : Nat) : List UInt8 → Memory
  | [] => m
  | v :: vs => write ⟨m.bytes.setIfInBounds address v⟩ (address + 1) vs

/-- Writes `values` from `address` on, all of them or none. -/
def setBlock (m : Memory) (address : Nat) (values : List UInt8) : Except Fault Memory :=
  if address + values.length ≤ memorySize then .ok (m.write address values)
  else .error (blockFault address)

/-- The big-endian word at `address`; the first byte of it that is missing is named. -/
def word (m : Memory) (address : Nat) : Except Fault UInt16 :=
  match m.get address, m.get (address + 1) with
  | .error f, _ => .error f
  | .ok _, .error f => .error f
  | .ok high, .ok low => .ok (high.toUInt16 <<< 8 ||| low.toUInt16)

/-- Memories are their bytes one by one. -/
theorem ext_getElem {m n : Memory}
    (same : ∀ (a : Nat) (inside : a < memorySize), m.bytes[a] = n.bytes[a]) : m = n := by
  obtain ⟨bytes⟩ := m
  obtain ⟨bytes'⟩ := n
  exact congrArg Memory.mk (Vector.ext same)

theorem block_of_fits (m : Memory) {address len : Nat}
    (fits : address + len ≤ memorySize) :
    m.block address len = .ok ((m.bytes.toList.drop address).take len) := by
  rw [block, dif_pos fits]
  refine congrArg Except.ok (List.ext_getElem ?_ fun k _ _ => ?_)
  · simp only [List.length_ofFn, List.length_take, List.length_drop, Vector.length_toList]
    omega
  · simp

theorem block_eq_error_iff {m : Memory} {address len : Nat} {f : Fault} :
    m.block address len = .error f ↔ memorySize < address + len ∧ f = blockFault address := by
  unfold block
  split
  · rename_i fits
    simp [Nat.not_lt.mpr fits]
  · rename_i cut
    simp [Nat.lt_of_not_le cut, eq_comm]

/-- A block that is read has as many bytes as were asked for. -/
theorem length_block {m : Memory} {address len : Nat} {values : List UInt8}
    (read : m.block address len = .ok values) : values.length = len := by
  unfold block at read
  split at read
  · cases read
    exact List.length_ofFn
  · cases read

theorem setBlock_eq_ok_iff {m after : Memory} {address : Nat} {values : List UInt8} :
    m.setBlock address values = .ok after ↔
      address + values.length ≤ memorySize ∧ after = m.write address values := by
  unfold setBlock
  split
  · rename_i fits
    simp [fits, eq_comm]
  · rename_i cut
    simp [cut]

theorem setBlock_eq_error_iff {m : Memory} {address : Nat} {values : List UInt8} {f : Fault} :
    m.setBlock address values = .error f ↔
      memorySize < address + values.length ∧ f = blockFault address := by
  unfold setBlock
  split
  · rename_i fits
    simp [Nat.not_lt.mpr fits]
  · rename_i cut
    simp [Nat.lt_of_not_le cut, eq_comm]

/-- After a write, an address it covers holds the value given for it, any other its old byte. -/
theorem getElem_write (m : Memory) (address : Nat) (values : List UInt8) (i : Nat)
    (hi : i < memorySize) :
    (m.write address values).bytes[i] =
      if address ≤ i then (values[i - address]?).getD m.bytes[i] else m.bytes[i] := by
  induction values generalizing m address with
  | nil => simp [write]
  | cons v vs ih =>
    rw [write, ih]
    rcases Nat.lt_trichotomy i address with h | h | h
    · simp [show ¬ address + 1 ≤ i by omega, show ¬ address ≤ i by omega,
        show address ≠ i by omega]
    · subst h
      simp [show ¬ i + 1 ≤ i by omega]
    · have hk : i - address = (i - (address + 1)) + 1 := by omega
      simp [show address + 1 ≤ i by omega, show address ≤ i by omega, hk,
        show address ≠ i by omega]

/-- A write changes nothing before its address, and nothing past its values. -/
theorem getElem_write_of_outside (m : Memory) {address a : Nat} {values : List UInt8}
    (inside : a < memorySize) (outside : a < address ∨ address + values.length ≤ a) :
    (m.write address values).bytes[a] = m.bytes[a] := by
  rw [getElem_write]
  split
  · rw [List.getElem?_eq_none (by omega), Option.getD_none]
  · rfl

end Memory

end Chip8

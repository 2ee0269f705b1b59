import Mathlib.Data.Set.Basic
import Mathlib.Order.Bounds.Defs
import Chip8.Proofs.Faults
import Chip8.Proofs.Runs

/-!
# Which byte an address fault names

A cycle has to access the two bytes of its word and, for four kinds of words, a block of bytes at the
index. The addresses among these that memory does not have are its missing bytes. An address fault
names the least of them (`addressFault_iff`), with one exception: a sprite without rows needs no byte
at all, and yet it is refused when the index is past the end of memory, though not when it is at the
end (`emptySprite_misnamed`).
-/

namespace Chip8.Machine

variable {m : Machine} {a len : Nat}

/-- The next word reads or writes this many bytes from the index on. -/
inductive NextBlock (m : Machine) : Nat → Prop
  /-- Dxyn reads the rows of its sprite. -/
  | sprite (x y n : Fin 16) (next : m.NextWord (0xD000 + 0x100 * x + 0x10 * y + n)) :
    NextBlock m n
  /-- Fx33 writes three digits. -/
  | digits (x : Fin 16) (next : m.NextWord (0xF033 + 0x100 * x)) : NextBlock m 3
  /-- Fx55 writes V0 to Vx, and Fx65 reads them. -/
  | registers (x : Fin 16)
    (next : m.NextWord (0xF055 + 0x100 * x) ∨ m.NextWord (0xF065 + 0x100 * x)) :
    NextBlock m (x + 1)

/-- The addresses that the next cycle has to access. -/
inductive Accesses (m : Machine) (a : Nat) : Prop
  | high (first : a = m.pc.toNat)
  | low (second : a = m.pc.toNat + 1)
  | block {len : Nat} (next : m.NextBlock len) (above : m.index.toNat ≤ a)
    (below : a < m.index.toNat + len)

/-- The addresses that the next cycle has to access and that memory does not have. -/
def missing (m : Machine) : Set Nat := {a | m.Accesses a ∧ memorySize ≤ a}

/-- The next word is Dxy0, and the index is past the end of memory. -/
def EmptySpriteOutside (m : Machine) : Prop :=
  (∃ x y : Fin 16, m.NextWord (0xD000 + 0x100 * x + 0x10 * y)) ∧ memorySize < m.index.toNat

/-! ## Blocks -/

/-- How many bytes at the index an instruction reads or writes. -/
def blockLength : Instruction → Nat
  | .draw _ _ height => height
  | .storeDecimal _ => 3
  | .storeRegisters x | .loadRegisters x => x + 1
  | _ => 0

theorem NextBlock.spells (next : m.NextBlock len) :
    ∃ w i, m.NextWord w ∧ Instruction.Spells i w ∧ blockLength i = len := by
  cases next with
  | sprite x y n next => exact ⟨_, .draw x y n, next, rfl, rfl⟩
  | digits x next => exact ⟨_, .storeDecimal x, next, rfl, rfl⟩
  | registers x next =>
    rcases next with stored | loaded
    · exact ⟨_, .storeRegisters x, stored, rfl, rfl⟩
    · exact ⟨_, .loadRegisters x, loaded, rfl, rfl⟩

theorem NextBlock.fetches (next : m.NextBlock len) : m.pc.toNat + 1 < memorySize := by
  obtain ⟨_, _, next, _⟩ := next.spells
  exact next.1

/-- The next word has one block. -/
theorem NextBlock.unique {other : Nat} (first : m.NextBlock len) (second : m.NextBlock other) :
    len = other := by
  obtain ⟨w, i, next, spelled, rfl⟩ := first.spells
  obtain ⟨v, j, next', spelled', rfl⟩ := second.spells
  obtain ⟨u, value, _, decoded⟩ := next.decodes spelled
  obtain ⟨u', value', _, decoded'⟩ := next'.decodes spelled'
  have same : u = u' := by
    rw [← UInt16.toNat_inj, value, value']
    exact next.unique next'
  rw [← decoded, ← decoded', same]

/-- A block of no bytes belongs to a sprite without rows. -/
theorem nextBlock_zero_iff :
    m.NextBlock 0 ↔ ∃ x y : Fin 16, m.NextWord (0xD000 + 0x100 * x + 0x10 * y) := by
  constructor
  · intro next
    generalize none : 0 = len at next
    cases next with
    | sprite x y n next => exact ⟨x, y, by rwa [← none] at next⟩
    | digits x next => cases none
    | registers x next => cases none
  · rintro ⟨x, y, next⟩
    exact .sprite x y 0 next

/-- An address fault is due to the fetch or to the block. -/
theorem faultDue_address_iff :
    FaultDue m (.addressOutOfRange a) ↔
      (memorySize ≤ m.pc.toNat + 1 ∧ a = max memorySize m.pc.toNat) ∨
      ∃ len, m.NextBlock len ∧ memorySize < m.index.toNat + len ∧
        a = max memorySize m.index.toNat := by
  constructor
  · intro due
    cases due with
    | outside above => exact .inl ⟨by omega, by omega⟩
    | cut last => exact .inl ⟨by omega, by omega⟩
    | sprite x y n next long => exact .inr ⟨n, .sprite x y n next, long, rfl⟩
    | digits x next long => exact .inr ⟨3, .digits x next, long, rfl⟩
    | registers x next long => exact .inr ⟨x + 1, .registers x next, long, rfl⟩
  · rintro (⟨cut, rfl⟩ | ⟨len, next, long, rfl⟩)
    · by_cases outside : memorySize ≤ m.pc.toNat
      · rw [Nat.max_eq_right outside]
        exact .outside outside
      · rw [Nat.max_eq_left (by omega)]
        exact .cut (by omega)
    · cases next with
      | sprite x y n next => exact .sprite x y n next long
      | digits x next => exact .digits x next long
      | registers x next => exact .registers x next long

/-! ## The least missing byte -/

theorem isLeast_missing_of_unfetched (cut : memorySize ≤ m.pc.toNat + 1) :
    IsLeast m.missing a ↔ a = max memorySize m.pc.toNat := by
  have least : IsLeast m.missing (max memorySize m.pc.toNat) := by
    refine ⟨⟨?_, Nat.le_max_left _ _⟩, ?_⟩
    · by_cases outside : memorySize ≤ m.pc.toNat
      · exact .high (Nat.max_eq_right outside)
      · exact .low (by omega)
    · rintro b ⟨accessed, outside⟩
      cases accessed with
      | high first => omega
      | low second => omega
      | block next above below =>
        have fetched := next.fetches
        omega
  constructor
  · intro other
    exact Nat.le_antisymm (other.2 least.1) (least.2 other.1)
  · rintro rfl
    exact least

theorem mem_missing_of_nextBlock (next : m.NextBlock len) :
    a ∈ m.missing ↔ memorySize ≤ a ∧ m.index.toNat ≤ a ∧ a < m.index.toNat + len := by
  have fetched := next.fetches
  constructor
  · rintro ⟨accessed, outside⟩
    cases accessed with
    | high first => omega
    | low second => omega
    | block other above below =>
      obtain rfl := next.unique other
      exact ⟨outside, above, below⟩
  · rintro ⟨outside, above, below⟩
    exact ⟨.block next above below, outside⟩

theorem isLeast_missing_of_nextBlock (next : m.NextBlock len) :
    IsLeast m.missing a ↔
      0 < len ∧ memorySize < m.index.toNat + len ∧ a = max memorySize m.index.toNat := by
  constructor
  · rintro ⟨member, least⟩
    obtain ⟨outside, above, below⟩ := (mem_missing_of_nextBlock next).mp member
    have first : max memorySize m.index.toNat ∈ m.missing :=
      (mem_missing_of_nextBlock next).mpr ⟨by omega, by omega, by omega⟩
    have bound := least first
    exact ⟨by omega, by omega, by omega⟩
  · rintro ⟨some, long, rfl⟩
    refine ⟨(mem_missing_of_nextBlock next).mpr ⟨by omega, by omega, by omega⟩, ?_⟩
    intro b member
    obtain ⟨outside, above, _⟩ := (mem_missing_of_nextBlock next).mp member
    exact Nat.max_le.mpr ⟨outside, above⟩

/-- Where the word is there and no block goes with it, nothing is missing. -/
theorem not_mem_missing (fetched : m.pc.toNat + 1 < memorySize)
    (plain : ∀ len, ¬ m.NextBlock len) : a ∉ m.missing := by
  rintro ⟨accessed, outside⟩
  cases accessed with
  | high first => omega
  | low second => omega
  | block next above below => exact plain _ next

theorem faultDue_address_iff_isLeast :
    FaultDue m (.addressOutOfRange a) ↔
      IsLeast m.missing a ∨ (m.EmptySpriteOutside ∧ a = m.index.toNat) := by
  rw [faultDue_address_iff, EmptySpriteOutside, ← nextBlock_zero_iff]
  by_cases fetched : m.pc.toNat + 1 < memorySize
  · rw [or_iff_right fun unfetched => absurd fetched (Nat.not_lt.mpr unfetched.1)]
    by_cases block : ∃ len, m.NextBlock len
    · obtain ⟨len, next⟩ := block
      have only {l} (other : m.NextBlock l) : l = len := other.unique next
      rw [isLeast_missing_of_nextBlock next]
      constructor
      · rintro ⟨l, other, long, rfl⟩
        obtain rfl := only other
        rcases Nat.eq_zero_or_pos l with rfl | some
        · exact .inr ⟨⟨other, long⟩, Nat.max_eq_right (Nat.le_of_lt long)⟩
        · exact .inl ⟨some, long, rfl⟩
      · rintro (⟨some, long, rfl⟩ | ⟨⟨empty, outside⟩, rfl⟩)
        · exact ⟨len, next, long, rfl⟩
        · exact ⟨0, empty, outside, (Nat.max_eq_right (Nat.le_of_lt outside)).symm⟩
    · have plain : ∀ len, ¬ m.NextBlock len := fun len next => block ⟨len, next⟩
      constructor
      · rintro ⟨len, next, _⟩
        exact absurd next (plain len)
      · rintro (least | ⟨⟨empty, _⟩, _⟩)
        · exact absurd least.1 (not_mem_missing fetched plain)
        · exact absurd empty (plain 0)
  · have cut : memorySize ≤ m.pc.toNat + 1 := Nat.le_of_not_lt fetched
    have plain : ∀ len, ¬ m.NextBlock len := fun len next => fetched next.fetches
    rw [isLeast_missing_of_unfetched cut]
    simp only [plain, cut, true_and, false_and, exists_false, or_false]

/-- A cycle of a running machine raises an address fault exactly if a byte that it has to access is
missing, and names the least one; but a sprite without rows, which needs no byte, is refused all the
same when the index is past the end of memory, and then the fault names the index. So a cycle that
misses nothing raises no address fault, unless it is to draw such a sprite. -/
theorem addressFault_iff (m : Machine) (running : m.halted = false) :
    (∀ a, m.cycle.1 = .error (.addressOutOfRange a) ↔
      IsLeast m.missing a ∨ (m.EmptySpriteOutside ∧ a = m.index.toNat)) ∧
    (m.missing = ∅ → ¬ m.EmptySpriteOutside →
      ∀ a, m.cycle.1 ≠ .error (.addressOutOfRange a)) := by
  have names (a : Nat) : m.cycle.1 = .error (.addressOutOfRange a) ↔
      IsLeast m.missing a ∨ (m.EmptySpriteOutside ∧ a = m.index.toNat) :=
    (cycle_fault_iff_due running).trans faultDue_address_iff_isLeast
  refine ⟨names, fun complete drawn a faulted => ?_⟩
  rcases (names a).mp faulted with ⟨member, _⟩ | ⟨empty, _⟩
  · rw [complete] at member
    exact member
  · exact drawn empty

/-- Fifteen rows with eight bytes left to read: the first missing byte is the one after the last. -/
theorem addressFault_iff_clippedSprite :
    clippedSprite.halted = false ∧
      clippedSprite.cycle.1 = .error (.addressOutOfRange 0x1000) ∧
      IsLeast clippedSprite.missing 0x1000 := by
  have least : IsLeast clippedSprite.missing 0x1000 :=
    (isLeast_missing_of_nextBlock (.sprite 0 1 15 nextWord_clippedSprite)).mpr
      ⟨by decide, by decide, by decide⟩
  exact ⟨rfl, ((addressFault_iff clippedSprite rfl).1 _).mpr (.inl least), least⟩

/-! ## Sprites without rows -/

/-- Moves the index as far past the end of memory as one addition can, and then draws no rows. -/
def emptySprite : Machine :=
  (fresh ⟨Vector.replicate 8 0, 0⟩).after
    [.load .program [0xAF, 0xFF, 0x60, 0xFF, 0xF0, 0x1E, 0xD1, 0x10], .cycle, .cycle, .cycle]

theorem nextWord_emptySprite : emptySprite.NextWord 0xD110 :=
  ⟨by decide +kernel, by decide +kernel⟩

/-- The cycle needs no byte that memory does not have, and raises an address fault. -/
theorem emptySprite_misnamed :
    emptySprite.halted = false ∧ emptySprite.missing = ∅ ∧
      emptySprite.cycle.1 = .error (.addressOutOfRange 0x10FE) ∧
      ¬ IsLeast emptySprite.missing 0x10FE := by
  have running : emptySprite.halted = false := by decide +kernel
  have index : emptySprite.index.toNat = 0x10FE := by decide +kernel
  have next : emptySprite.NextBlock 0 := .sprite 1 1 0 nextWord_emptySprite
  have complete : emptySprite.missing = ∅ := by
    refine Set.eq_empty_of_forall_notMem fun a member => ?_
    obtain ⟨_, above, below⟩ := (mem_missing_of_nextBlock next).mp member
    omega
  refine ⟨running, complete, ?_, fun least => ?_⟩
  · refine (cycle_fault_iff_due running).mpr (faultDue_address_iff.mpr (.inr ⟨0, next, ?_, ?_⟩))
    · rw [index]
      decide
    · rw [index]
      decide
  · have member := least.1
    rw [complete] at member
    exact member

end Chip8.Machine

import Chip8.Proofs.Faults

/-!
# Skips and their complements

Six instructions skip the next one, in pairs: 3xkk and 4xkk, 5xy0 and 9xy0, Ex9E and ExA1. The two of a
pair make the same test and draw opposite conclusions. A key test releases its line when it is pressed,
in one instruction with the skip and in the other without it; either way the line is released
afterwards (`execute_instruction`). So of two machines that differ only in which of the two words
comes next, exactly one skips, and nothing else tells them apart afterwards
(`skips_complementary`).
-/

namespace Chip8

/-- What a pair of skips tests, with the operands of its words. -/
inductive SkipTest
  /-- Vx is the byte: 3xkk and 4xkk. -/
  | byte (x : Register) (kk : UInt8)
  /-- Vx is Vy: 5xy0 and 9xy0. -/
  | register (x y : Register)
  /-- The key line named by Vx is pressed: Ex9E and ExA1. -/
  | key (x : Register)
  deriving DecidableEq, Repr

namespace SkipTest

/-- The word that skips if the test finds what is wanted. -/
def word : SkipTest → (wanted : Bool) → Nat
  | byte x kk, true => 0x3000 + 0x100 * x + kk.toNat
  | byte x kk, false => 0x4000 + 0x100 * x + kk.toNat
  | register x y, true => 0x5000 + 0x100 * x + 0x10 * y
  | register x y, false => 0x9000 + 0x100 * x + 0x10 * y
  | key x, true => 0xE09E + 0x100 * x
  | key x, false => 0xE0A1 + 0x100 * x

/-- The instruction that the word spells. -/
def instruction : SkipTest → (wanted : Bool) → Instruction
  | byte x kk, true => .skipIfByte x kk
  | byte x kk, false => .skipUnlessByte x kk
  | register x y, true => .skipIfSame x y
  | register x y, false => .skipUnlessSame x y
  | key x, true => .skipIfPressed x
  | key x, false => .skipUnlessPressed x

theorem spells (t : SkipTest) (wanted : Bool) :
    Instruction.Spells (t.instruction wanted) (t.word wanted) := by
  cases t <;> cases wanted
  case register.true => exact ⟨0, by decide, rfl⟩
  all_goals exact rfl

end SkipTest

namespace Keypad

variable {k : Keypad} {line : UInt8}

/-- The keypad with a line released, if there is such a line. -/
def release (k : Keypad) (line : UInt8) : Keypad :=
  { k with lines := k.lines.setIfInBounds line.toNat false }

theorem clear_of_inside (inside : line.toNat < keyCount) : k.clear line = .ok (k.release line) := by
  have same : k.lines.set line.toNat false = k.lines.setIfInBounds line.toNat false := by
    ext i _
    rw [Vector.getElem_set, Vector.getElem_setIfInBounds]
  rw [clear, dif_pos inside, same, release]

/-- A line that is released already stays as it is. -/
theorem release_of_released (quiet : k.lines[line.toNat]? = some false) : k.release line = k := by
  have same : k.lines.setIfInBounds line.toNat false = k.lines := by
    obtain ⟨inside, released⟩ := Vector.getElem?_eq_some_iff.mp quiet
    ext i _
    rw [Vector.getElem_setIfInBounds]
    split
    · rename_i here
      simp only [← here, released]
    · rfl
  rw [release, same]

theorem get_release {key : Fin keyCount} (named : line.toNat = key) :
    (k.release line).lines.get key = false := by
  rw [release, named]
  exact Vector.getElem_setIfInBounds_self key.isLt

end Keypad

namespace Machine

open SkipTest

variable {m n : Machine} {t : SkipTest} {wanted found : Bool} {w : UInt16}

/-! ## One instruction -/

/-- What the test finds, or the fault of asking for a line that does not exist. -/
def finding (m : Machine) : SkipTest → Except Fault Bool
  | .byte x kk => .ok (m.registers.get x == kk)
  | .register x y => .ok (m.registers.get x == m.registers.get y)
  | .key x => m.keypad.isPressed (m.registers.get x)

/-- The keypad after the test. -/
def keypadTested (m : Machine) : SkipTest → Keypad
  | .byte .. | .register .. => m.keypad
  | .key x => m.keypad.release (m.registers.get x)

/-- The machine after a test that has found `found` where `wanted` makes it skip. -/
def tested (m : Machine) (t : SkipTest) (wanted found : Bool) : Machine :=
  { m with pc := if found == wanted then m.pc + 2 else m.pc, keypad := m.keypadTested t }

theorem skipWhen_eq (m : Machine) (condition : Bool) :
    m.skipWhen condition = { m with pc := if condition then m.pc + 2 else m.pc } := by
  cases condition <;> rfl

/-- The two key tests release the line in different branches, but both leave it released. -/
theorem execute_key (m : Machine) (x : Register) (wanted : Bool) :
    m.execute ((SkipTest.key x).instruction wanted) =
      m.attempt (m.keypad.isPressed (m.registers.get x)) fun found =>
        done (m.tested (.key x) wanted found) := by
  cases read : m.keypad.isPressed (m.registers.get x) with
  | error f => cases wanted <;> simp only [instruction, execute, skipIfPressed, skipUnlessPressed,
      read, attempt]
  | ok pressed =>
    -- a line whose state can be read exists, so the release that follows cannot be refused
    have line := Keypad.isPressed_eq_ok_iff.mp read
    obtain ⟨inside, _⟩ := Vector.getElem?_eq_some_iff.mp line
    have cleared := Keypad.clear_of_inside (k := m.keypad) inside
    cases pressed with
    | true =>
      cases wanted <;> simp only [instruction, execute, skipIfPressed, skipUnlessPressed, read, attempt,
        cleared] <;> rfl
    | false =>
      have still := Keypad.release_of_released line
      cases wanted <;> simp only [instruction, execute, skipIfPressed, skipUnlessPressed, read, attempt,
        tested, keypadTested, still] <;> rfl

theorem execute_instruction (m : Machine) (t : SkipTest) (wanted : Bool) :
    m.execute (t.instruction wanted) =
      m.attempt (m.finding t) fun found => done (m.tested t wanted found) := by
  cases t with
  | byte x kk | register x y =>
    cases wanted <;> simp only [instruction, execute, skipWhen_eq, finding, attempt, tested, beq_true,
      beq_false, bne] <;> rfl
  | key x => exact m.execute_key x wanted

/-! ## One cycle -/

/-- A cycle that comes to one of the words is decided by what the test finds, once the key queue is
drained. -/
theorem cycle_skip (running : m.halted = false) (next : m.NextWord (t.word wanted)) :
    ∃ w, m.memory.word m.pc.toNat = .ok w ∧ m.cycle =
      match m.drainKeys.finding t with
      | .error f => (.error f, (m.fetched w).halt)
      | .ok found => (.ok (), ((m.fetched w).tested t wanted found).tickTimers) := by
  obtain ⟨w, _, read, decoded⟩ := next.decodes (t.spells wanted)
  have same : (m.fetched w).finding t = m.drainKeys.finding t := by cases t <;> rfl
  refine ⟨w, read, ?_⟩
  rw [cycle_of_word running read, decoded, execute_instruction, same]
  cases m.drainKeys.finding t <;> rfl

theorem toNat_pc_tested (t : SkipTest) (read : m.memory.word m.pc.toNat = .ok w) :
    ((m.fetched w).tested t wanted found).pc.toNat =
      m.pc.toNat + if found == wanted then 4 else 2 := by
  have inside : m.pc.toNat + 1 < 4096 := (Memory.word_eq_ok_iff.mp read).1
  have past := toNat_pc_fetched read
  have further := toNat_pc_advance (m := m.fetched w) (by omega)
  simp only [tested]
  split
  · exact further.trans (by rw [past])
  · exact past

/-- What the test asks for. -/
def Holds (m : Machine) : SkipTest → Prop
  | .byte x kk => m.registers.get x = kk
  | .register x y => m.registers.get x = m.registers.get y
  | .key x => m.keypad.lines[(m.registers.get x).toNat]? = some true

theorem finding_cases (m : Machine) (t : SkipTest) :
    (∃ x, t = .key x ∧ 15 < (m.registers.get x).toNat ∧
        m.finding t = .error (.keyOutOfRange (m.registers.get x))) ∨
      (m.Holds t ∧ m.finding t = .ok true) ∨ (¬ m.Holds t ∧ m.finding t = .ok false) := by
  cases t with
  | byte x kk | register x y => simp [finding, Holds, Decidable.em]
  | key x =>
    simp only [finding, Holds]
    cases read : m.keypad.isPressed (m.registers.get x) with
    | error f =>
      obtain ⟨large, rfl⟩ := Keypad.isPressed_eq_error_iff.mp read
      exact .inl ⟨x, rfl, large, rfl⟩
    | ok pressed =>
      rw [Keypad.isPressed_eq_ok_iff.mp read]
      cases pressed <;> simp

/-- A test that finds something skips if it is what the word wants. -/
theorem cycle_of_found (running : m.halted = false) (next : m.NextWord (t.word wanted))
    (finds : m.drainKeys.finding t = .ok found) :
    m.cycle.1 = .ok () ∧ m.cycle.2.pc.toNat = m.pc.toNat + if found == wanted then 4 else 2 := by
  obtain ⟨w, read, result⟩ := cycle_skip running next
  rw [result, finds]
  exact ⟨rfl, toNat_pc_tested t read⟩

theorem cycle_of_refused {f : Fault} (running : m.halted = false) (next : m.NextWord (t.word wanted))
    (finds : m.drainKeys.finding t = .error f) : m.cycle.1 = .error f := by
  obtain ⟨w, _, result⟩ := cycle_skip running next
  rw [result, finds]

theorem memory_cycle_skip (running : m.halted = false) (next : m.NextWord (t.word wanted)) :
    m.cycle.2.memory = m.memory := by
  obtain ⟨w, _, result⟩ := cycle_skip running next
  rw [result]
  cases m.drainKeys.finding t <;> rfl

/-- Whichever of the two key tests it is, and whether it skips or not, its line is released. -/
theorem released_cycle {x : Register} {key : Fin keyCount} (running : m.halted = false)
    (next : m.NextWord ((SkipTest.key x).word wanted)) (named : (m.registers.get x).toNat = key) :
    m.cycle.2.keypad.lines.get key = false := by
  obtain ⟨w, _, result⟩ := cycle_skip running next
  rw [result]
  cases finds : m.drainKeys.finding (.key x) with
  | error f =>
    obtain ⟨large, _⟩ := Keypad.isPressed_eq_error_iff.mp finds
    exact absurd key.isLt (Nat.not_lt.mpr (named ▸ large))
  | ok pressed => exact Keypad.get_release named

/-! ## Two machines -/

/-- Two machines that differ only in the word that comes next. -/
structure SameButWord (m n : Machine) (w v : Nat) : Prop where
  parts : ∃ memory, n = { m with memory }
  first : m.NextWord w
  second : n.NextWord v
  bytes : ∀ (a : Nat) (inside : a < memorySize), a ≠ m.pc.toNat → a ≠ m.pc.toNat + 1 →
    n.memory.bytes[a] = m.memory.bytes[a]

namespace SameButWord

variable {w v : Nat} (same : SameButWord m n w v)

include same

theorem pc : n.pc = m.pc := by
  obtain ⟨memory, rfl⟩ := same.parts
  rfl

theorem registers : n.registers = m.registers := by
  obtain ⟨memory, rfl⟩ := same.parts
  rfl

theorem running (running : m.halted = false) : n.halted = false := by
  obtain ⟨memory, rfl⟩ := same.parts
  exact running

theorem finding (t : SkipTest) : n.drainKeys.finding t = m.drainKeys.finding t := by
  obtain ⟨memory, rfl⟩ := same.parts
  cases t <;> rfl

end SameButWord

/-- What a cycle makes of two machines of which one comes to a skip and the other to its
complement. -/
structure SkipsComplement (t : SkipTest) (m n : Machine) : Prop where
  outcome :
    (∃ x, t = .key x ∧ 15 < (m.registers.get x).toNat ∧
      m.cycle.1 = .error (.keyOutOfRange (m.registers.get x)) ∧
      n.cycle.1 = .error (.keyOutOfRange (m.registers.get x))) ∨
    (m.cycle.1 = .ok () ∧ n.cycle.1 = .ok () ∧
      (m.drainKeys.Holds t ∧ m.cycle.2.pc.toNat = m.pc.toNat + 4 ∧
          n.cycle.2.pc.toNat = m.pc.toNat + 2 ∨
        ¬ m.drainKeys.Holds t ∧ m.cycle.2.pc.toNat = m.pc.toNat + 2 ∧
          n.cycle.2.pc.toNat = m.pc.toNat + 4))
  parts : ∃ memory pc opcode, n.cycle.2 = { m.cycle.2 with memory, pc, opcode }
  bytes : ∀ (a : Nat) (inside : a < memorySize), a ≠ m.pc.toNat → a ≠ m.pc.toNat + 1 →
    n.cycle.2.memory.bytes[a] = m.cycle.2.memory.bytes[a]
  released : ∀ x, t = .key x → ∀ key : Fin keyCount, (m.registers.get x).toNat = key →
    m.cycle.2.keypad.lines.get key = false ∧ n.cycle.2.keypad.lines.get key = false

/-- One cycle of two running machines that differ only in whether a skip or its complement comes next:
either both fault, which takes a key that does not exist, or exactly one of them skips. All that the
cycles leave behind is the same but for the program counter, the word and the opcode, and a tested key
line is released. -/
theorem skips_complementary (running : m.halted = false)
    (same : SameButWord m n (t.word true) (t.word false)) : SkipsComplement t m n := by
  have running' := same.running running
  have pc := same.pc
  have found := same.finding t
  refine ⟨?outcome, ?parts, ?bytes, ?released⟩
  case outcome =>
    rcases m.drainKeys.finding_cases t with ⟨x, rfl, large, finds⟩ | ⟨holds, finds⟩ | ⟨fails, finds⟩
    · exact .inl ⟨x, rfl, large, cycle_of_refused running same.first finds,
        cycle_of_refused running' same.second (found.trans finds)⟩
    · obtain ⟨success, skipped⟩ := cycle_of_found running same.first finds
      obtain ⟨success', stayed⟩ := cycle_of_found running' same.second (found.trans finds)
      exact .inr ⟨success, success', .inl ⟨holds, skipped, pc ▸ stayed⟩⟩
    · obtain ⟨success, stayed⟩ := cycle_of_found running same.first finds
      obtain ⟨success', skipped⟩ := cycle_of_found running' same.second (found.trans finds)
      exact .inr ⟨success, success', .inr ⟨fails, stayed, pc ▸ skipped⟩⟩
  case parts =>
    obtain ⟨w, _, left⟩ := cycle_skip running same.first
    obtain ⟨v, _, right⟩ := cycle_skip running' same.second
    rw [left, right, found]
    obtain ⟨memory, rfl⟩ := same.parts
    cases m.drainKeys.finding t <;> exact ⟨_, _, _, rfl⟩
  case bytes =>
    rw [memory_cycle_skip running same.first, memory_cycle_skip running' same.second]
    exact same.bytes
  case released =>
    rintro x rfl key named
    exact ⟨released_cycle running same.first named,
      released_cycle running' same.second (same.registers ▸ named)⟩

/-- About to test line 3, with a press of it in the queue. -/
def asksPressed : Machine :=
  { fresh ⟨Vector.replicate 8 0, 0⟩ with
    memory := Memory.blank.write 0x200 [0xE0, 0x9E]
    registers := Registers.zero.set .first 3
    keypad := { Keypad.released with pending := [.pressed 3] } }

/-- The same machine with the complementary test. -/
def asksReleased : Machine :=
  { asksPressed with memory := Memory.blank.write 0x200 [0xE0, 0xA1] }

theorem sameButWord_asksPressed : SameButWord asksPressed asksReleased
    ((SkipTest.key .first).word true) ((SkipTest.key .first).word false) where
  parts := ⟨_, rfl⟩
  first := ⟨by decide, by decide +kernel⟩
  second := ⟨by decide, by decide +kernel⟩
  bytes := by
    intro a inside notFirst notSecond
    have outside : a < 0x200 ∨ 0x200 + 2 ≤ a := by
      change a ≠ 0x200 at notFirst
      change a ≠ 0x200 + 1 at notSecond
      omega
    exact (Memory.getElem_write_of_outside Memory.blank inside outside).trans
      (Memory.getElem_write_of_outside Memory.blank inside outside).symm

theorem skips_complementary_asksPressed :
    asksPressed.halted = false ∧ SkipsComplement (.key .first) asksPressed asksReleased ∧
      asksPressed.cycle.2.pc.toNat = 0x204 ∧ asksReleased.cycle.2.pc.toNat = 0x202 := by
  have complement := skips_complementary rfl sameButWord_asksPressed
  refine ⟨rfl, complement, ?_⟩
  have holds : asksPressed.drainKeys.Holds (.key .first) := by
    change asksPressed.drainKeys.keypad.lines[_]? = some true
    decide +kernel
  rcases complement.outcome with ⟨x, same, large, _⟩ | ⟨_, _, ⟨_, skipped, stayed⟩ | ⟨fails, _⟩⟩
  · cases same
    exact absurd large (by decide)
  · exact ⟨skipped, stayed⟩
  · exact absurd holds fails

end Machine

end Chip8

import Chip8.Proofs.Frame
import Chip8.Proofs.KeyEvents

/-!
# Key tests and presses

A program asks for a key by Ex9E, which skips if the line is pressed, and by ExA1, which skips
unless it is. Either way a press that has been seen is gone: the line is pressed before the test and
released after it (`press_of_keyTest`), and no other instruction touches a line. So in every run a
press answers at most one test, where a line that is still pressed has its press left
(`presses_cover_keyTests`).
-/

namespace Chip8

namespace Keypad

theorem get_lines (k : Keypad) (key : Fin keyCount) :
    k.lines.get key = getElem k.lines key.val key.isLt := rfl

/-- One if the line is pressed, else zero. -/
def held (k : Keypad) (key : Fin keyCount) : Nat := if k.lines.get key then 1 else 0

theorem held_le_of_imp {k l : Keypad} {key : Fin keyCount}
    (kept : l.lines.get key = true → k.lines.get key = true) : l.held key ≤ k.held key := by
  unfold held
  split
  · rename_i pressed
    exact Nat.le_of_eq (if_pos (kept pressed)).symm
  · exact Nat.zero_le _

/-- An event presses a line only if it is a press of that line. -/
theorem held_apply_le (k : Keypad) (e : KeyEvent) (key : Fin keyCount) :
    (k.apply e).held key ≤ k.held key + [e].count (.pressed (UInt8.ofNat key)) := by
  by_cases own : e = .pressed (UInt8.ofNat key)
  · have one : (k.apply e).held key ≤ 1 := by
      unfold held
      split <;> decide
    rw [own] at one ⊢
    rw [List.count_singleton_self]
    omega
  · refine Nat.le_add_right_of_le (held_le_of_imp fun pressed => ?_)
    rw [get_lines, getElem_lines_apply] at pressed
    split at pressed
    · rename_i named
      cases e with
      | pressed line =>
        refine absurd (congrArg KeyEvent.pressed ?_) own
        rw [← named]
        exact UInt8.ofNat_toNat.symm
      | released line => cases pressed
    · exact pressed

theorem held_foldl_apply_le (events : List KeyEvent) (k : Keypad) (key : Fin keyCount) :
    (events.foldl apply k).held key ≤ k.held key + events.count (.pressed (UInt8.ofNat key)) := by
  induction events generalizing k with
  | nil => exact Nat.le_refl _
  | cons e rest ih =>
    have first := held_apply_le k e key
    have later := ih (k.apply e)
    rw [List.foldl_cons, ← List.singleton_append, List.count_append]
    omega

theorem held_drain_le (k : Keypad) (key : Fin keyCount) :
    k.drain.held key ≤ k.held key + k.pending.count (.pressed (UInt8.ofNat key)) :=
  held_foldl_apply_le k.pending { k with pending := [] } key

end Keypad

namespace Machine

open Word Instruction

variable {m after : Machine} {key : Fin keyCount}

/-! ## One instruction -/

/-- No instruction presses a line. -/
theorem held_execute_le {i : Instruction} (key : Fin keyCount)
    (success : m.execute i = (.ok (), after)) :
    after.keypad.held key ≤ m.keypad.held key := by
  refine Keypad.held_le_of_imp fun pressed => ?_
  rcases (effect_of_execute success).keypad with same | ⟨x, _, inside, _, cleared⟩
  · rwa [same] at pressed
  · rw [cleared, Keypad.get_lines, Vector.getElem_set] at pressed
    split at pressed
    · cases pressed
    · exact pressed

/-- The machine has come out of a key test of this line as it does on a press: Ex9E has skipped, or
ExA1 has not. -/
def FindsPress (m after : Machine) (key : Fin keyCount) (i : Instruction) : Prop :=
  ∃ x, (m.registers.get x).toNat = key ∧
    (i = .skipIfPressed x ∧ after.pc = m.pc + 2 ∨ i = .skipUnlessPressed x ∧ after.pc = m.pc)

theorem add_two_ne (pc : UInt16) : pc + 2 ≠ pc := by
  have bound := pc.toNat_lt
  intro same
  have sum := congrArg UInt16.toNat same
  rw [UInt16.toNat_add] at sum
  simp only [UInt16.reduceToNat] at sum
  omega

/-- Before a press is consumed the line is pressed, and afterwards it is not. -/
theorem held_of_consumed {keypad : Keypad} {line : UInt8} (named : line.toNat = key)
    (pressed : m.keypad.lines[line.toNat]? = some true) (inside : line.toNat < keyCount)
    (cleared : keypad = { m.keypad with lines := m.keypad.lines.set line.toNat false }) :
    m.keypad.held key = 1 ∧ keypad.held key = 0 := by
  obtain ⟨_, line⟩ := Vector.getElem?_eq_some_iff.mp pressed
  simp only [named] at line
  constructor
  · exact if_pos line
  · rw [cleared]
    refine if_neg ?_
    rw [Keypad.get_lines]
    simp [named]

/-- The press that a key test finds is gone after it. -/
theorem press_of_keyTest {i : Instruction} (success : m.execute i = (.ok (), after))
    (finds : FindsPress m after key i) :
    m.keypad.held key = 1 ∧ after.keypad.held key = 0 := by
  obtain ⟨x, named, ⟨rfl, skipped⟩ | ⟨rfl, stayed⟩⟩ := finds
  · rcases press_cases success with ⟨line, inside, rfl⟩ | ⟨_, rfl⟩
    · exact held_of_consumed named line inside rfl
    · exact absurd skipped.symm (add_two_ne _)
  · rcases press_cases success with ⟨line, inside, rfl⟩ | ⟨_, rfl⟩
    · exact held_of_consumed named line inside rfl
    · exact absurd stayed (add_two_ne _)

/-! ## One action -/

/-- The events that an action applies to the lines: the one it brings, or those it takes from the
queue. -/
def applied (m : Machine) : Action → List KeyEvent
  | .apply event => [event]
  | a => m.taken a

/-- The events that a run applies to the lines. -/
def appliedBy (m : Machine) : List Action → List KeyEvent
  | [] => []
  | a :: actions => m.applied a ++ (m.perform a).2.appliedBy actions

/-- One for a cycle that succeeds, executes a word whose nibbles are E, x and the two in `last`,
with the number of the line in Vx, and goes on `step` bytes further; else zero. -/
def keyTests (last step : Nat) (key : Fin keyCount) (m : Machine) : Action → Nat
  | .cycle =>
    match m.cycle, m.memory.word m.pc.toNat with
    | (.ok (), after), .ok w =>
      if Fits w 0xE last ∧ (m.registers.get (x w)).toNat = key ∧
          after.pc.toNat = m.pc.toNat + step then 1
      else 0
    | _, _ => 0
  | _ => 0

/-- The cycles in which Ex9E, with the number of the line in Vx, skips. -/
def skipsOnPress (key : Fin keyCount) : Machine → Action → Nat := keyTests 0x9E 4 key

/-- The cycles in which ExA1, with the number of the line in Vx, does not skip. -/
def staysOnPress (key : Fin keyCount) : Machine → Action → Nat := keyTests 0xA1 2 key

theorem keyTests_of_other {last step : Nat} {a : Action} (other : a ≠ .cycle) :
    keyTests last step key m a = 0 := by
  cases a
  case cycle => exact absurd rfl other
  all_goals rfl

theorem keyTests_of_error {last step : Nat} {f : Fault} (faulted : m.cycle = (.error f, after)) :
    keyTests last step key m .cycle = 0 := by
  simp only [keyTests, faulted]

theorem keyTests_of_ok {last step : Nat} {w : UInt16} (success : m.cycle = (.ok (), after))
    (read : m.memory.word m.pc.toNat = .ok w) :
    keyTests last step key m .cycle =
      if Fits w 0xE last ∧ (m.registers.get (x w)).toNat = key ∧
        after.pc.toNat = m.pc.toNat + step then 1 else 0 := by
  simp only [keyTests, success, read]

theorem findsPress_of_fits {w : UInt16} (read : m.memory.word m.pc.toNat = .ok w)
    (named : (m.registers.get (x w)).toNat = key)
    (taken : Fits w 0xE 0x9E ∧ after.pc.toNat = m.pc.toNat + 4 ∨
      Fits w 0xE 0xA1 ∧ after.pc.toNat = m.pc.toNat + 2) :
    FindsPress (m.fetched w) after key (decode w) := by
  have inside : m.pc.toNat + 1 < 4096 := (Memory.word_eq_ok_iff.mp read).1
  have past := toNat_pc_fetched read
  refine ⟨x w, named, taken.imp ?_ ?_⟩
  · rintro ⟨fits, skipped⟩
    have beyond := toNat_pc_advance (m := m.fetched w) (by omega)
    refine ⟨(decode_eq_row_iff .skipIfPressed 0xE 0x9E (fun _ _ => Iff.rfl) (by decide)).mpr
      ⟨fits, rfl⟩, UInt16.toNat_inj.mp ?_⟩
    rw [past] at beyond
    exact skipped.trans beyond.symm
  · rintro ⟨fits, stayed⟩
    refine ⟨(decode_eq_row_iff .skipUnlessPressed 0xE 0xA1 (fun _ _ => Iff.rfl) (by decide)).mpr
      ⟨fits, rfl⟩, UInt16.toNat_inj.mp ?_⟩
    rw [stayed, past]

/-- A cycle that succeeds counts for one test at most, and then its press is gone. -/
theorem keyTests_ok_le (key : Fin keyCount) {w : UInt16} {executed : Machine}
    (read : m.memory.word m.pc.toNat = .ok w)
    (result : (m.fetched w).execute (decode w) = (.ok (), executed))
    (success : m.cycle = (.ok (), executed.tickTimers)) :
    skipsOnPress key m .cycle + staysOnPress key m .cycle + executed.keypad.held key ≤
      m.drainKeys.keypad.held key := by
  simp only [skipsOnPress, staysOnPress, keyTests_of_ok success read]
  split
  · rename_i skips
    have notBoth : ¬ Fits w 0xE 0xA1 :=
      fun other => absurd (skips.1.2.symm.trans other.2) (by decide)
    obtain ⟨before, behind⟩ :=
      press_of_keyTest result (findsPress_of_fits read skips.2.1 (.inl ⟨skips.1, skips.2.2⟩))
    rw [if_neg fun stays => notBoth stays.1, behind]
    exact Nat.le_of_eq before.symm
  · split
    · rename_i stays
      obtain ⟨before, behind⟩ :=
        press_of_keyTest result (findsPress_of_fits read stays.2.1 (.inr ⟨stays.1, stays.2.2⟩))
      rw [behind]
      exact Nat.le_of_eq before.symm
    · have kept := held_execute_le key result
      rw [Nat.zero_add]
      exact kept

theorem keyTests_cycle_le (m : Machine) (key : Fin keyCount) :
    skipsOnPress key m .cycle + staysOnPress key m .cycle + m.cycle.2.keypad.held key ≤
      m.keypad.held key + (m.taken .cycle).count (.pressed (UInt8.ofNat key)) := by
  cases running : m.halted with
  | true =>
    have stopped := cycle_of_halted running
    simp only [skipsOnPress, staysOnPress, keyTests_of_error stopped, stopped, Nat.zero_add]
    exact Nat.le_add_right _ _
  | false =>
    have drained := m.keypad.held_drain_le key
    rw [taken_cycle running]
    rcases result : m.cycle with ⟨f | _, after⟩
    · have keypad : after.keypad = m.keypad.drain := by
        rcases (cycle_eq_error_iff running).mp result with ⟨_, rfl⟩ | ⟨w, _, _, rfl⟩ <;> rfl
      simp only [skipsOnPress, staysOnPress, keyTests_of_error result, keypad]
      omega
    · obtain ⟨w, executed, read, success, rfl⟩ := (cycle_eq_ok_iff running).mp result
      have paid := keyTests_ok_le key read success result
      exact Nat.le_trans paid drained

/-- Tests that find a press, and the press that is left, are paid for by presses that were there
before or come in. -/
theorem keyTests_perform_le (m : Machine) (key : Fin keyCount) {a : Action} (driver : a.isDriver) :
    skipsOnPress key m a + staysOnPress key m a + (m.perform a).2.keypad.held key ≤
      m.keypad.held key + (m.applied a).count (.pressed (UInt8.ofNat key)) := by
  by_cases cycles : a = .cycle
  · rw [cycles, perform_cycle]
    exact m.keyTests_cycle_le key
  · simp only [skipsOnPress, staysOnPress, keyTests_of_other cycles]
    cases a
    case cycle => exact absurd rfl cycles
    case apply event =>
      have applied := m.keypad.held_apply_le event key
      simp only [perform, Machine.applied]
      omega
    case load kind image =>
      have kept : (m.perform (.load kind image)).2.keypad = m.keypad := by
        obtain ⟨memory, effect⟩ := m.perform_load kind image
        rw [effect]
      rw [kept]
      omega
    case send | halt | takeRedraw =>
      simp only [Nat.zero_add]
      exact Nat.le_add_right _ _
    all_goals cases driver

/-! ## Whole runs -/

theorem keyTests_after_le (m : Machine) (key : Fin keyCount) {actions : List Action}
    (driven : ∀ a ∈ actions, a.isDriver) :
    tally (skipsOnPress key) m actions + tally (staysOnPress key) m actions +
        (m.after actions).keypad.held key ≤
      m.keypad.held key + (m.appliedBy actions).count (.pressed (UInt8.ofNat key)) := by
  induction actions generalizing m with
  | nil => exact Nat.le_of_eq (by simp [tally, appliedBy])
  | cons a rest ih =>
    have first := m.keyTests_perform_le key (driven a List.mem_cons_self)
    have later := ih (m.perform a).2 fun b member => driven b (List.mem_cons_of_mem a member)
    simp only [tally, appliedBy, after_cons, List.count_append]
    omega

/-- A wait for a key leaves the press that ends it to be tested. -/
theorem keypad_cycle_awaitKey {w : UInt16} (running : m.halted = false)
    (next : m.NextWord w.toNat) (waits : Fits w 0xF 0x0A) :
    m.cycle.2.keypad = m.drainKeys.keypad := by
  have read : m.memory.word m.pc.toNat = .ok w := Memory.word_eq_ok_iff.mpr next
  have decoded : decode w = .awaitKey (x w) :=
    (decode_eq_row_iff .awaitKey 0xF 0x0A (fun _ _ => Iff.rfl) (by decide)).mpr ⟨waits, rfl⟩
  rcases result : m.cycle with ⟨f | ⟨⟩, after⟩
  · rcases (cycle_eq_error_iff running).mp result with ⟨_, rfl⟩ | ⟨v, _, _, rfl⟩ <;> rfl
  · obtain ⟨v, executed, same, success, rfl⟩ := (cycle_eq_ok_iff running).mp result
    obtain rfl : w = v := Except.ok.inj (read.symm.trans same)
    rw [decoded] at success
    rcases (effect_of_execute success).keypad with kept | ⟨r, tests, _⟩
    · exact kept
    · rcases tests with tests | tests <;> cases tests

/-- After every run of a driver's actions on a fresh machine, and for every line: the tests that
have found a press of it, and one more if it is pressed now, are no more than the presses of it that
have been applied, it is not pressed without one, and a wait for a key does not use one up. -/
theorem presses_cover_keyTests (g : Generator) {actions : List Action}
    (driven : ∀ a ∈ actions, a.isDriver) (key : Fin keyCount) :
    tally (skipsOnPress key) (fresh g) actions + tally (staysOnPress key) (fresh g) actions +
        (if ((fresh g).after actions).keypad.lines.get key then 1 else 0) ≤
      ((fresh g).appliedBy actions).count (.pressed (UInt8.ofNat key)) ∧
    (((fresh g).after actions).keypad.lines.get key = true →
      .pressed (UInt8.ofNat key) ∈ (fresh g).appliedBy actions) ∧
    ∀ w : UInt16, ((fresh g).after actions).NextWord w.toNat → Fits w 0xF 0x0A →
      ((fresh g).after actions).halted = false →
      ((fresh g).after actions).cycle.2.keypad = ((fresh g).after actions).drainKeys.keypad := by
  have start : (fresh g).keypad.held key = 0 := by
    refine if_neg ?_
    rw [Keypad.get_lines]
    simp [fresh, Keypad.released]
  have paid := (fresh g).keyTests_after_le key driven
  rw [start, Nat.zero_add] at paid
  refine ⟨paid, fun pressed => ?_, fun w next waits running =>
    keypad_cycle_awaitKey running next waits⟩
  have left : ((fresh g).after actions).keypad.held key = 1 := if_pos pressed
  exact List.count_pos_iff.mp (by omega)

/-- Line 3 is pressed twice, once through the queue. Ex9E finds the first press and ExA1 the
second. -/
def twoPresses : List Action :=
  [.load .program [0x61, 0x03, 0xE1, 0x9E, 0x00, 0x00, 0xE1, 0xA1], .send (.pressed 3), .cycle,
    .cycle, .apply (.pressed 3), .cycle]

theorem presses_cover_keyTests_twoPresses :
    (∀ a ∈ twoPresses, a.isDriver) ∧
      tally (skipsOnPress 3) (fresh ⟨Vector.replicate 8 0, 0⟩) twoPresses = 1 ∧
      tally (staysOnPress 3) (fresh ⟨Vector.replicate 8 0, 0⟩) twoPresses = 1 ∧
      2 ≤ ((fresh ⟨Vector.replicate 8 0, 0⟩).appliedBy twoPresses).count
        (.pressed (UInt8.ofNat (3 : Fin keyCount))) := by
  have driven : ∀ a ∈ twoPresses, a.isDriver := by decide
  have skips : tally (skipsOnPress 3) (fresh ⟨Vector.replicate 8 0, 0⟩) twoPresses = 1 := by
    decide +kernel
  have stays : tally (staysOnPress 3) (fresh ⟨Vector.replicate 8 0, 0⟩) twoPresses = 1 := by
    decide +kernel
  have covered := (presses_cover_keyTests ⟨Vector.replicate 8 0, 0⟩ driven 3).1
  rw [skips, stays] at covered
  exact ⟨driven, skips, stays, by omega⟩

end Machine

end Chip8

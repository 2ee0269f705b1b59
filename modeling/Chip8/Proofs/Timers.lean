import Chip8.Proofs.Frame
import Chip8.Proofs.Runs

/-!
# Timers over runs

In a cycle that succeeds, each timer counts down from the value that the cycle's own word sets it to,
or from the one it had (`timer_cycle`). Nothing else that a driver does moves a timer. So after a run
whose cycles all succeed, a timer holds what it was set to last, less one for each cycle from the
setting one on, and never less than zero (`timers_after_run`).
-/

namespace Chip8

/-- The two timers of a machine. -/
inductive TimerKind
  | delay
  | sound
  deriving DecidableEq, Repr

/-- The last byte of the words that set the timer, which are Fx15 and Fx18. -/
def TimerKind.setter : TimerKind → Nat
  | delay => 0x15
  | sound => 0x18

namespace Machine

open Word Instruction

variable {m after : Machine} {t : TimerKind}

def timer (m : Machine) : TimerKind → Timer
  | .delay => m.delay
  | .sound => m.sound

/-- The value that the next word sets the timer to, if it sets it. -/
def setsTo (m : Machine) (t : TimerKind) : Option UInt8 :=
  match m.memory.word m.pc.toNat with
  | .ok w => if Fits w 0xF t.setter then some (m.registers.get (x w)) else none
  | .error _ => none

/-! ## One action -/

/-- The value that is set takes part in the countdown of the cycle that sets it. -/
theorem timer_cycle (success : m.cycle = (.ok (), after)) :
    (after.timer t).count.toNat = ((m.setsTo t).getD (m.timer t).count).toNat - 1 := by
  obtain ⟨w, read, _⟩ := moves_of_cycle_ok success
  have frame := frame_of_word success read
  have counted : (after.timer t).count.toNat =
      (if Fits w 0xF t.setter then m.registers.get (x w) else (m.timer t).count).toNat - 1 := by
    cases t
    case delay => exact frame.delay
    case sound => exact frame.sound
  rw [counted, setsTo, read]
  simp only
  split <;> rfl

/-- A cycle that faults leaves the timers alone, and so does one of a stopped machine. -/
theorem timer_of_cycle_error {f : Fault} (faulted : m.cycle.1 = .error f) :
    m.cycle.2.timer t = m.timer t := by
  obtain ⟨_, _, _, effect⟩ := frame_of_cycle_error (cycle_eq_of_fst faulted)
  rw [effect]
  cases t <;> rfl

theorem timer_perform_of_ne {a : Action} (driver : a.isDriver) (other : a ≠ .cycle) :
    (m.perform a).2.timer t = m.timer t := by
  obtain ⟨memory, keypad, halted, redraw, effect⟩ := perform_of_isDriver driver other
  rw [effect]
  cases t <;> rfl

/-- Fx07 reads the delay timer before the cycle counts it down. -/
theorem get_of_readDelay {x : Register} (success : m.cycle.1 = .ok ())
    (next : m.NextWord (0xF007 + 0x100 * x)) : m.cycle.2.registers.get x = m.delay.count := by
  have result := cycle_eq_of_fst success
  obtain ⟨w, executed, read, given, effect⟩ :=
    (cycle_eq_ok_iff (running_of_cycle_ok result)).mp result
  obtain ⟨v, _, same, decoded⟩ := next.decodes (i := .readDelay x) rfl
  obtain rfl : v = w := Except.ok.inj (same.symm.trans read)
  rw [decoded] at given
  cases given
  rw [effect]
  exact Registers.get_set_self _ _ _

/-! ## Whole runs -/

variable {actions : List Action}

theorem timer_after_of_unset (driven : ∀ a ∈ actions, a.isDriver)
    (succeed : ∀ s ∈ m.cycleStarts actions, s.cycle.1 = .ok ())
    (unset : ∀ s ∈ m.cycleStarts actions, s.setsTo t = none) :
    ((m.after actions).timer t).count.toNat =
      (m.timer t).count.toNat - (m.cycleStarts actions).length := by
  revert succeed unset
  refine driven_induction ?nil ?cycle ?other m driven
  case nil =>
    intro m _ _
    rfl
  case cycle =>
    intro m rest _ ih succeed unset
    simp only [cycleStarts_cycle, List.forall_mem_cons] at succeed unset
    have first := timer_cycle (t := t) (cycle_eq_of_fst succeed.1)
    rw [unset.1, Option.getD_none] at first
    rw [after_cons, perform_cycle, ih succeed.2 unset.2, first, cycleStarts_cycle, List.length_cons]
    omega
  case other =>
    intro m a rest driver noCycle ih succeed unset
    rw [cycleStarts_of_ne noCycle] at succeed unset ⊢
    rw [after_cons, ih succeed unset, timer_perform_of_ne driver noCycle]

/-- The last setting decides. It is in the `j`-th cycle, counted from zero. -/
theorem timer_after_of_sets (driven : ∀ a ∈ actions, a.isDriver)
    (succeed : ∀ s ∈ m.cycleStarts actions, s.cycle.1 = .ok ()) {j : Nat} {s : Machine} {v : UInt8}
    (jth : (m.cycleStarts actions)[j]? = some s) (sets : s.setsTo t = some v)
    (last : ∀ r ∈ (m.cycleStarts actions).drop (j + 1), r.setsTo t = none) :
    ((m.after actions).timer t).count.toNat = v.toNat - ((m.cycleStarts actions).length - j) := by
  revert j succeed
  refine driven_induction ?nil ?cycle ?other m driven
  case nil =>
    intro m _ j jth _
    cases jth
  case cycle =>
    intro m rest others ih succeed j jth last
    simp only [cycleStarts_cycle, List.forall_mem_cons, List.drop_succ_cons] at succeed jth last
    rw [after_cons, perform_cycle, cycleStarts_cycle, List.length_cons]
    cases j with
    | zero =>
      -- this is the setting cycle: the value has lost one in it when the rest begins
      cases jth
      have first := timer_cycle (t := t) (cycle_eq_of_fst succeed.1)
      rw [sets, Option.getD_some] at first
      rw [timer_after_of_unset others succeed.2 last, first]
      omega
    | succ j =>
      rw [ih succeed.2 jth last]
      omega
  case other =>
    intro m a rest _ noCycle ih succeed j jth last
    rw [cycleStarts_of_ne noCycle] at succeed jth last ⊢
    exact ih succeed jth last

/-- The machines that the cycles of a run leave behind, and in front of them the one that the run
begins with. -/
def cycleEnds (m : Machine) (actions : List Action) : List Machine :=
  m :: (m.cycleStarts actions).map fun s => s.cycle.2

theorem cycleEnds_cycle (m : Machine) (actions : List Action) :
    m.cycleEnds (.cycle :: actions) = m :: m.cycle.2.cycleEnds actions := by
  simp only [cycleEnds, cycleStarts_cycle, List.map_cons]

/-- Nothing moves a timer between two cycles. -/
theorem timer_of_cycleEnds (t : TimerKind) (driven : ∀ a ∈ actions, a.isDriver) :
    ∀ (j : Nat) (s e : Machine), (m.cycleStarts actions)[j]? = some s →
      (m.cycleEnds actions)[j]? = some e → s.timer t = e.timer t := by
  refine driven_induction ?nil ?cycle ?other m driven
  case nil =>
    intro m j s e jth _
    cases jth
  case cycle =>
    intro m rest _ ih j s e jth before
    rw [cycleStarts_cycle] at jth
    rw [cycleEnds_cycle] at before
    cases j with
    | zero =>
      cases jth
      cases before
      rfl
    | succ j => exact ih j s e jth before
  case other =>
    intro m a rest driver noCycle ih j s e jth before
    have kept : (m.perform a).2.timer t = m.timer t := timer_perform_of_ne driver noCycle
    rw [cycleEnds, cycleStarts_of_ne noCycle] at before
    rw [cycleStarts_of_ne noCycle] at jth
    cases j with
    | zero =>
      cases before
      exact (ih 0 s _ jth rfl).trans kept
    | succ j => exact ih (j + 1) s e jth before

/-- After a run of a driver's actions on any machine whose cycles all succeed: a timer that no cycle
has set holds what it held before, less one for each cycle, and one that was set holds the last value,
less one for each cycle from the setting one on, which is the `j`-th, counted from zero; both stay at
zero once they are there. Fx07 in the `j`-th cycle gives Vx the delay timer as the cycle before, or the
start of the run, has left it. And a cycle that faults moves neither timer. -/
theorem timers_after_run (m : Machine) {actions : List Action} (driven : ∀ a ∈ actions, a.isDriver)
    (succeed : ∀ s ∈ m.cycleStarts actions, s.cycle.1 = .ok ()) :
    (∀ t : TimerKind,
      ((∀ s ∈ m.cycleStarts actions, s.setsTo t = none) →
        ((m.after actions).timer t).count.toNat =
          (m.timer t).count.toNat - (m.cycleStarts actions).length) ∧
      ∀ (j : Nat) (s : Machine) (v : UInt8),
        (m.cycleStarts actions)[j]? = some s → s.setsTo t = some v →
        (∀ r ∈ (m.cycleStarts actions).drop (j + 1), r.setsTo t = none) →
        ((m.after actions).timer t).count.toNat =
          v.toNat - ((m.cycleStarts actions).length - j)) ∧
    (∀ (j : Nat) (s e : Machine) (x : Register), (m.cycleStarts actions)[j]? = some s →
      (m.cycleEnds actions)[j]? = some e → s.NextWord (0xF007 + 0x100 * x) →
      s.cycle.2.registers.get x = e.delay.count) ∧
    ∀ (n : Machine) (f : Fault) (t : TimerKind), n.cycle.1 = .error f →
      n.cycle.2.timer t = n.timer t := by
  refine ⟨fun t => ⟨timer_after_of_unset driven succeed, fun j s v jth sets last =>
    timer_after_of_sets driven succeed jth sets last⟩, fun j s e x jth before next => ?_,
    fun n f t => timer_of_cycle_error⟩
  have stored := get_of_readDelay (succeed s (List.mem_of_getElem? jth)) next
  have same : s.delay = e.delay := timer_of_cycleEnds .delay driven j s e jth before
  rw [stored, same]

/-- V0 becomes 9, both timers are set to it, and V1 becomes the delay timer. An event and a poll come
between the cycles. -/
def timersSet : List Action :=
  [.load .program [0x60, 0x09, 0xF0, 0x15, 0xF0, 0x18, 0xF1, 0x07], .cycle, .send (.pressed 2),
    .cycle, .cycle, .takeRedraw, .cycle]

theorem cycle_timersSet :
    ∀ s ∈ (fresh ⟨Vector.replicate 8 0, 0⟩).cycleStarts timersSet, s.cycle.1 = .ok () := by
  have fine : ∀ s ∈ (fresh ⟨Vector.replicate 8 0, 0⟩).cycleStarts timersSet, s.cycle.1.isOk := by
    decide +kernel
  intro s member
  have succeeds := fine s member
  cases outcome : s.cycle.1 with
  | error f =>
    rw [outcome] at succeeds
    cases succeeds
  | ok _ => rfl

theorem timers_after_run_timersSet :
    (∀ a ∈ timersSet, a.isDriver) ∧
      (∀ s ∈ (fresh ⟨Vector.replicate 8 0, 0⟩).cycleStarts timersSet, s.cycle.1 = .ok ()) ∧
      (((fresh ⟨Vector.replicate 8 0, 0⟩).after timersSet).timer .delay).count.toNat = 6 := by
  have driven : ∀ a ∈ timersSet, a.isDriver := by decide
  have four : ((fresh ⟨Vector.replicate 8 0, 0⟩).cycleStarts timersSet).length = 4 := by
    decide +kernel
  have second : (((fresh ⟨Vector.replicate 8 0, 0⟩).cycleStarts timersSet)[1]?).map
      (fun s => s.setsTo .delay) = some (some 9) := by decide +kernel
  obtain ⟨s, jth, sets⟩ := Option.map_eq_some_iff.mp second
  have delay := ((timers_after_run _ driven cycle_timersSet).1 .delay).2 1 s 9 jth sets
    (by decide +kernel)
  refine ⟨driven, cycle_timersSet, ?_⟩
  rw [delay, four]
  rfl

end Machine

end Chip8

import Chip8.Machine.Action
import Chip8.Proofs.Cycles

/-!
# Runs

What a driver does to a machine is a list of actions; what holds after every run holds after every
step of one, since each beginning of a run is a run. A property that single actions keep is kept by
runs (`after_induction`). Of a driver's actions only the cycle touches the program counter, the
call stack, the registers and the screen (`perform_of_isDriver`).
-/

namespace Chip8

/-- What a driver does with a machine: it loads images, runs cycles, passes key events on, stops
the machine and polls the screen. The other actions reach into its parts. -/
def Action.isDriver : Action → Bool
  | .load .. | .cycle | .apply _ | .send _ | .halt | .takeRedraw => true
  | _ => false

namespace Machine

/-- The machine after a run. -/
def after (m : Machine) (actions : List Action) : Machine := (m.play actions).2

@[simp] theorem after_nil (m : Machine) : m.after [] = m := rfl

@[simp] theorem after_cons (m : Machine) (a : Action) (actions : List Action) :
    m.after (a :: actions) = (m.perform a).2.after actions := rfl

/-- What each allowed action keeps, a run of allowed actions keeps. -/
theorem after_induction {P : Machine → Prop} {allowed : Action → Bool}
    (step : ∀ m a, allowed a → P m → P (m.perform a).2) {m : Machine} {actions : List Action}
    (all : ∀ a ∈ actions, allowed a) (start : P m) : P (m.after actions) := by
  induction actions generalizing m with
  | nil => exact start
  | cons a rest ih =>
    have first := step m a (all a List.mem_cons_self) start
    exact ih (fun b member => all b (List.mem_cons_of_mem a member)) first

theorem after_append (m : Machine) (first second : List Action) :
    m.after (first ++ second) = (m.after first).after second := by
  induction first generalizing m with
  | nil => rfl
  | cons a rest ih => exact ih (m.perform a).2

/-- How often something happens in a run, counted action by action. -/
def tally (count : Machine → Action → Nat) (m : Machine) : List Action → Nat
  | [] => 0
  | a :: actions => count m a + tally count (m.perform a).2 actions

/-- The machines that the cycles of a run begin with, in order. -/
def cycleStarts (m : Machine) : List Action → List Machine
  | [] => []
  | a :: actions => (if a = .cycle then [m] else []) ++ (m.perform a).2.cycleStarts actions

@[simp] theorem cycleStarts_nil (m : Machine) : m.cycleStarts [] = [] := rfl

@[simp] theorem perform_cycle (m : Machine) : (m.perform .cycle).2 = m.cycle.2 := by
  rcases result : m.cycle with ⟨_ | _, after⟩ <;> simp [perform, report, result]

@[simp] theorem cycleStarts_cycle (m : Machine) (actions : List Action) :
    m.cycleStarts (.cycle :: actions) = m :: m.cycle.2.cycleStarts actions := by
  rw [cycleStarts, if_pos rfl, perform_cycle, List.singleton_append]

theorem cycleStarts_of_ne {m : Machine} {a : Action} (other : a ≠ .cycle) (actions : List Action) :
    m.cycleStarts (a :: actions) = (m.perform a).2.cycleStarts actions := by
  rw [cycleStarts, if_neg other, List.nil_append]

/-- Making an answer out of an outcome does not touch the machine. -/
theorem report_snd {α : Type} (answer : α → Reply) (outcome : Except Fault α × Machine) :
    (report answer outcome).2 = outcome.2 := by
  rcases outcome with ⟨_ | _, after⟩ <;> rfl

/-- What may be refused leaves the machine as it was, or does what it does when accepted. -/
theorem settle_induction {ε α : Type} {P : Machine → Prop} {m : Machine} {refused : ε → Reply}
    {outcome : Except ε α} {accepted : α → Reply × Machine} (here : P m)
    (later : ∀ a, P (accepted a).2) : P (m.settle refused outcome accepted).2 := by
  cases outcome with
  | error e => exact here
  | ok a => exact later a

/-- An image that is loaded or refused touches memory alone. -/
theorem perform_load (m : Machine) (kind : ImageKind) (image : List UInt8) :
    ∃ memory, (m.perform (.load kind image)).2 = { m with memory } := by
  cases loaded : m.memory.load kind image with
  | error refused => exact ⟨m.memory, by simp [perform, load, loaded, settle, Except.map]⟩
  | ok memory => exact ⟨memory, by simp [perform, load, loaded, settle, Except.map]⟩

/-- A driver's action that is no cycle changes nothing but memory, keypad, the stopped flag and the
redraw flag. -/
theorem perform_of_isDriver {m : Machine} {a : Action} (driver : a.isDriver)
    (other : a ≠ .cycle) : ∃ memory keypad halted redraw,
      (m.perform a).2 = { m with memory, keypad, halted, redraw } := by
  cases a
  case cycle => exact absurd rfl other
  case load kind image =>
    obtain ⟨memory, effect⟩ := m.perform_load kind image
    exact ⟨memory, m.keypad, m.halted, m.redraw, effect⟩
  case apply event => exact ⟨m.memory, m.keypad.apply event, m.halted, m.redraw, rfl⟩
  case send event => exact ⟨m.memory, m.keypad.send event, m.halted, m.redraw, rfl⟩
  case halt => exact ⟨m.memory, m.keypad, true, m.redraw, rfl⟩
  case takeRedraw => exact ⟨m.memory, m.keypad, m.halted, false, rfl⟩
  all_goals cases driver

/-- Induction on a run of a driver's actions, cut into its cycles and what comes between them. -/
@[elab_as_elim]
theorem driven_induction {motive : Machine → List Action → Prop} (nil : ∀ m, motive m [])
    (cycle : ∀ m rest, (∀ a ∈ rest, a.isDriver) → motive m.cycle.2 rest →
      motive m (.cycle :: rest))
    (other : ∀ m a rest, a.isDriver → a ≠ .cycle → motive (m.perform a).2 rest →
      motive m (a :: rest))
    (m : Machine) {actions : List Action} (driven : ∀ a ∈ actions, a.isDriver) :
    motive m actions := by
  induction actions generalizing m with
  | nil => exact nil m
  | cons a rest ih =>
    obtain ⟨driver, others⟩ := List.forall_mem_cons.mp driven
    have later := ih (m.perform a).2 others
    by_cases cycles : a = .cycle
    · subst cycles
      rw [perform_cycle] at later
      exact cycle m rest others later
    · exact other m a rest driver cycles later

end Machine

end Chip8

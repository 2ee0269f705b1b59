import Chip8.Proofs.Operations
import Chip8.Proofs.Runs

/-!
# Redraw

Whoever shows the screen polls the redraw flag and copies the screen when the flag was set. Every
action but the poll announces what it does to the screen: if the flag is clear afterwards, it was
clear before and the screen is the same (`announces_perform`). So a clear flag means that the screen
is still the one of the latest poll, and the copy is the screen whenever there has been a poll just
now (`no_change_unseen`). This holds for all actions, those that reach into a machine's parts
included.
-/

namespace Chip8.Machine

variable {m after : Machine}

/-! ## One step -/

/-- If the redraw flag is clear after a step, it was clear before, and the screen is the same. -/
def Announces (m after : Machine) : Prop :=
  after.redraw = false → m.redraw = false ∧ after.screen = m.screen

theorem Announces.of_same (screen : after.screen = m.screen) (redraw : after.redraw = m.redraw) :
    Announces m after :=
  fun clear => ⟨redraw.symm.trans clear, screen⟩

theorem Announces.of_redraw (set : after.redraw = true) : Announces m after := by
  intro clear
  rw [set] at clear
  cases clear

/-- An instruction that draws sets the flag, and a draw that faults does not draw. -/
theorem announces_execute (m : Machine) (i : Instruction) : Announces m (m.execute i).2 := by
  cases drawing : draws i with
  | false =>
    have display := display_execute (m := m) drawing
    exact .of_same display.screen display.redraw
  | true =>
    cases i
    case clearScreen => exact .of_redraw rfl
    case draw x y height =>
      exact attempt_induction (P := Announces m) (.of_same rfl rfl) fun sprite => .of_redraw rfl
    all_goals cases drawing

theorem announces_cycle (m : Machine) : Announces m m.cycle.2 := by
  rcases result : m.cycle with ⟨f | _, after⟩
  · obtain ⟨_, _, _, rfl⟩ := frame_of_cycle_error result
    exact .of_same rfl rfl
  · obtain ⟨w, executed, _, success, rfl⟩ :=
      (cycle_eq_ok_iff (running_of_cycle_ok result)).mp result
    have announced := announces_execute (m.fetched w) (.decode w)
    rw [success] at announced
    exact announced

theorem announces_nextWord (m : Machine) : Announces m m.nextWord.2 :=
  attempt_induction (P := Announces m) (.of_same rfl rfl) fun _ => .of_same rfl rfl

theorem announces_fetch (m : Machine) : Announces m m.fetch.2 := by
  have announced := announces_nextWord m
  unfold fetch
  generalize m.nextWord = outcome at announced ⊢
  rcases outcome with ⟨f | w, after⟩
  · exact announced
  · exact announced

theorem announces_perform {a : Action} (other : a ≠ .takeRedraw) :
    Announces m (m.perform a).2 := by
  cases a
  case takeRedraw => exact absurd rfl other
  case cycle =>
    rw [perform_cycle]
    exact announces_cycle m
  case execute word =>
    rw [perform, report_snd]
    exact announces_execute m _
  case operate op =>
    exact perform_operate_induction (P := Announces m) (announces_execute m)
      (fun _ _ _ _ _ => .of_same rfl rfl) fun _ _ _ _ => .of_redraw rfl
  case fetch =>
    rw [perform, report_snd]
    exact announces_fetch m
  case nextWord =>
    rw [perform, report_snd]
    exact announces_nextWord m
  case load kind image =>
    obtain ⟨memory, effect⟩ := m.perform_load kind image
    rw [effect]
    exact .of_same rfl rfl
  case push | pop | setByte | fill =>
    exact settle_induction (P := Announces m) (.of_same rfl rfl) fun _ => .of_same rfl rfl
  all_goals exact .of_same rfl rfl

/-! ## Whole runs -/

/-- The screen at the latest poll of a run, or `shown` if it has none. -/
def screenAtPoll (m : Machine) (shown : Screen) : List Action → Screen
  | [] => shown
  | a :: actions =>
    (m.perform a).2.screenAtPoll (if a = .takeRedraw then m.screen else shown) actions

/-- What a renderer holds after a run if it copies the screen after each poll that tells it to, and
never else. -/
def rendered (m : Machine) (held : Screen) : List Action → Screen
  | [] => held
  | a :: actions =>
    (m.perform a).2.rendered
      (if a = .takeRedraw ∧ (m.perform a).1 = .flag true then (m.perform a).2.screen else held)
      actions

/-- While the flag is clear, the screen is the one that is shown. -/
def Shows (m : Machine) (shown : Screen) : Prop := m.redraw = false → m.screen = shown

theorem Shows.perform {shown : Screen} (shows : Shows m shown) (a : Action) :
    Shows (m.perform a).2 (if a = .takeRedraw then m.screen else shown) := by
  intro clear
  by_cases polled : a = .takeRedraw
  · rw [if_pos polled, polled]
    rfl
  · obtain ⟨before, same⟩ := announces_perform polled clear
    rw [if_neg polled, same]
    exact shows before

theorem shows_after {shown : Screen} (shows : Shows m shown) (actions : List Action) :
    Shows (m.after actions) (m.screenAtPoll shown actions) := by
  induction actions generalizing m shown with
  | nil => exact shows
  | cons a rest ih => exact ih (shows.perform a)

/-- A renderer that is told nothing has nothing to copy. -/
theorem rendered_eq_screenAtPoll {shown : Screen} (shows : Shows m shown) (actions : List Action) :
    m.rendered shown actions = m.screenAtPoll shown actions := by
  induction actions generalizing m shown with
  | nil => rfl
  | cons a rest ih =>
    have copied : (if a = .takeRedraw ∧ (m.perform a).1 = .flag true then (m.perform a).2.screen
        else shown) = if a = .takeRedraw then m.screen else shown := by
      by_cases polled : a = .takeRedraw
      · rw [if_pos polled, polled]
        cases flag : m.redraw with
        | true => exact if_pos ⟨rfl, congrArg Reply.flag flag⟩
        | false =>
          -- the poll says no, and then what is shown is the screen already
          have told : (m.perform .takeRedraw).1 = .flag false := congrArg Reply.flag flag
          rw [told, shows flag]
          exact if_neg (by simp)
      · rw [if_neg polled, if_neg fun both => polled both.1]
    rw [rendered, screenAtPoll, copied]
    exact ih (shows.perform a)

theorem screenAtPoll_append_takeRedraw (m : Machine) (shown : Screen) (actions : List Action) :
    m.screenAtPoll shown (actions ++ [.takeRedraw]) = (m.after actions).screen := by
  induction actions generalizing m shown with
  | nil => rfl
  | cons a rest ih => exact ih _ _

/-- After every run on a fresh machine: while the redraw flag is clear, the screen is the one of the
latest poll, or blank before the first; and a renderer that starts blank and copies the screen just
when a poll tells it to holds the screen after every poll. -/
theorem no_change_unseen (g : Generator) (actions : List Action) :
    (((fresh g).after actions).redraw = false →
      ((fresh g).after actions).screen = (fresh g).screenAtPoll .blank actions) ∧
    (fresh g).rendered .blank (actions ++ [.takeRedraw]) =
      ((fresh g).after (actions ++ [.takeRedraw])).screen := by
  have start : Shows (fresh g) .blank := fun _ => rfl
  refine ⟨shows_after start actions, ?_⟩
  rw [rendered_eq_screenAtPoll start, screenAtPoll_append_takeRedraw, after_append]
  rfl

/-- The screen is cleared and polled, and then comes a cycle that faults. -/
def clearedAndPolled : List Action :=
  [.load .program [0x00, 0xE0, 0x00, 0xEE], .cycle, .takeRedraw, .cycle]

theorem no_change_unseen_clearedAndPolled :
    ((fresh ⟨Vector.replicate 8 0, 0⟩).after clearedAndPolled).redraw = false ∧
      ((fresh ⟨Vector.replicate 8 0, 0⟩).after clearedAndPolled).screen =
        (fresh ⟨Vector.replicate 8 0, 0⟩).screenAtPoll .blank clearedAndPolled := by
  have clear : ((fresh ⟨Vector.replicate 8 0, 0⟩).after clearedAndPolled).redraw = false := by
    decide +kernel
  exact ⟨clear, (no_change_unseen _ clearedAndPolled).1 clear⟩

end Chip8.Machine

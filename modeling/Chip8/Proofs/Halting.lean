import Chip8.Proofs.Faults
import Chip8.Proofs.Operations
import Chip8.Proofs.Runs

/-!
# Stopped machines

A machine stops when it is told to or when one of its cycles faults, and in no other way; nothing
that can be done to it makes it run again. For one action this is an equivalence
(`halted_perform_iff`), over all actions, those that reach into a machine's parts and operations that
no word spells included, and so it is one for a run (`halted_after_iff`). A cycle of a stopped machine
is refused before it looks at the key queue, at memory or at the timers (`halted_is_final`).
-/

namespace Chip8.Machine

variable {m : Machine} {a : Action}

/-! ## One action -/

/-- After a cycle, a machine is stopped exactly if the cycle faulted: one that was stopped before is
refused the cycle. -/
theorem halted_cycle_iff (m : Machine) : m.cycle.2.halted = true ↔ ∃ f, m.cycle.1 = .error f := by
  rcases result : m.cycle with ⟨f | _, after⟩
  · have stopped := halted_of_cycle_error result
    simp [stopped]
  · have running := halted_of_cycle_ok result
    simp [running]

theorem halted_nextWord (m : Machine) : m.nextWord.2.halted = m.halted :=
  attempt_induction (P := fun later => later.halted = m.halted) rfl fun _ => rfl

theorem halted_fetch (m : Machine) : m.fetch.2.halted = m.halted := by
  have kept := halted_nextWord m
  unfold fetch
  generalize m.nextWord = outcome at kept ⊢
  rcases outcome with ⟨f | w, after⟩
  · exact kept
  · exact kept

/-- Every action but a cycle and the halt itself leaves the flag alone. -/
theorem halted_perform_of_ne (notCycle : a ≠ .cycle) (notHalt : a ≠ .halt) :
    (m.perform a).2.halted = m.halted := by
  cases a
  case cycle => exact absurd rfl notCycle
  case halt => exact absurd rfl notHalt
  case execute word =>
    rw [perform, report_snd]
    exact halted_execute m _
  case operate op =>
    exact perform_operate_induction (P := fun later => later.halted = m.halted) (halted_execute m)
      (fun _ _ _ _ _ => rfl) fun _ _ _ _ => rfl
  case fetch =>
    rw [perform, report_snd]
    exact halted_fetch m
  case nextWord =>
    rw [perform, report_snd]
    exact halted_nextWord m
  case load kind image =>
    obtain ⟨memory, effect⟩ := m.perform_load kind image
    rw [effect]
  case push | pop | setByte | fill =>
    exact settle_induction (P := fun later => later.halted = m.halted) rfl fun _ => rfl
  all_goals rfl

/-- A machine is stopped after an action exactly if it was stopped before, or the action is a halt or
a cycle that faults. -/
theorem halted_perform_iff (m : Machine) (a : Action) :
    (m.perform a).2.halted = true ↔
      m.halted = true ∨ a = .halt ∨ a = .cycle ∧ ∃ f, m.cycle.1 = .error f := by
  by_cases cycles : a = .cycle
  · rw [cycles, perform_cycle, halted_cycle_iff]
    have refused : m.halted = true → ∃ f, m.cycle.1 = .error f :=
      fun stopped => ⟨.halted, congrArg Prod.fst (cycle_of_halted stopped)⟩
    simpa using refused
  · by_cases halts : a = .halt
    · simp [halts, perform, halt]
    · simp [halted_perform_of_ne cycles halts, cycles, halts]

/-! ## Whole runs -/

theorem halted_after_iff (m : Machine) (actions : List Action) :
    (m.after actions).halted = true ↔
      m.halted = true ∨ .halt ∈ actions ∨
        ∃ s ∈ m.cycleStarts actions, ∃ f, s.cycle.1 = .error f := by
  -- the first action either stops the machine, or leaves the flag for the rest of the run to decide
  induction actions generalizing m with
  | nil => simp
  | cons a rest ih =>
    rw [after_cons, ih, halted_perform_iff]
    by_cases cycles : a = .cycle
    · subst cycles
      simp only [cycleStarts_cycle, perform_cycle, List.mem_cons, exists_eq_or_imp, true_and,
        reduceCtorEq, false_or, or_assoc, or_left_comm]
    · simp only [cycleStarts_of_ne cycles, List.mem_cons, cycles, false_and, or_false, or_assoc,
        @eq_comm Action a]

/-- At every point of every run of every machine: it is stopped exactly if it was at the start, or was
halted or had a cycle that faulted since; once it is stopped, each further cycle answers so and leaves
the whole machine as it is, the key queue and the generator included, and whatever is done next, it
stays stopped; and the next action stops it only if it is a halt or a cycle that faults. -/
theorem halted_is_final (m : Machine) (actions : List Action) :
    ((m.after actions).halted = true ↔
      m.halted = true ∨ .halt ∈ actions ∨
        ∃ s ∈ m.cycleStarts actions, ∃ f, s.cycle.1 = .error f) ∧
    ((m.after actions).halted = true →
      (m.after actions).cycle = (.error .halted, m.after actions) ∧
        ∀ later, (m.after (actions ++ later)).halted = true) ∧
    ∀ a, (m.after (actions ++ [a])).halted = true ↔
      (m.after actions).halted = true ∨ a = .halt ∨
        a = .cycle ∧ ∃ f, (m.after actions).cycle.1 = .error f := by
  refine ⟨halted_after_iff m actions, fun stopped => ⟨cycle_of_halted stopped, fun later => ?_⟩,
    fun a => ?_⟩
  · rw [after_append, halted_after_iff]
    exact .inl stopped
  · rw [after_append, after_cons, after_nil]
    exact halted_perform_iff _ a

/-- What is done to the stray return after its fault: an event, a jump that no word spells, an
instruction where it is. -/
def wakingActions : List Action :=
  [.send (.pressed 3), .operate (.jump 0x1200), .setPc 0x200, .execute 0x00E0]

theorem halted_is_final_strayReturn :
    (strayReturn.after [.cycle]).halted = true ∧
      (strayReturn.after ([.cycle] ++ wakingActions)).halted = true := by
  have faulted : strayReturn.cycle.1 = .error .stackUnderflow :=
    (cycle_fault_iff_due rfl).mpr (.underflow ⟨by decide, by decide +kernel⟩ rfl)
  have stopped : (strayReturn.after [.cycle]).halted = true := by
    rw [halted_after_iff]
    exact .inr (.inr ⟨strayReturn, by simp, _, faulted⟩)
  exact ⟨stopped, ((halted_is_final strayReturn [.cycle]).2.1 stopped).2 _⟩

end Chip8.Machine

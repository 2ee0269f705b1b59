import Mathlib.Data.ENat.Lattice
import Chip8.Proofs.Runs
import Chip8.Trace

/-!
# Recordings

A recording takes a snapshot after every cycle and ends with the first that faults. How long it is
depends on the bound and on the number of cycles that succeed before the first fault, which is
infinite if none ever faults; the recording of a machine says no more and no less than what these
cycles leave behind (`ofRun_record`, cycle by cycle with `record_induction`). A larger bound only
adds to the recording, and none past the fault adds anything (`record_grows`, `record_eq_of_lt`).
-/

namespace Chip8

namespace Machine

variable {m after : Machine} {f : Fault}

/-- The machine after so many cycles, whether they succeed or not. -/
def afterCycles (m : Machine) (n : Nat) : Machine := m.after (List.replicate n .cycle)

theorem afterCycles_succ (m : Machine) (n : Nat) :
    m.afterCycles (n + 1) = m.cycle.2.afterCycles n := by
  rw [afterCycles, List.replicate_succ, after_cons, perform_cycle, afterCycles]

/-- The number of cycles that succeed before the first that faults, infinite if none faults. -/
noncomputable def cyclesBeforeFault (m : Machine) : ENat :=
  sInf {k | ∃ (n : Nat) (f : Fault), k = n ∧ (m.afterCycles n).cycle.1 = .error f}

theorem le_cyclesBeforeFault_iff {n : Nat} :
    (n : ENat) ≤ m.cyclesBeforeFault ↔ ∀ k < n, (m.afterCycles k).cycle.1 = .ok () := by
  constructor
  · intro below k inside
    cases result : (m.afterCycles k).cycle.1 with
    | ok _ => rfl
    | error f =>
      have least : m.cyclesBeforeFault ≤ k := sInf_le ⟨k, f, rfl, result⟩
      have bound : (n : ENat) ≤ (k : ENat) := le_trans below least
      exact absurd (Nat.cast_le.mp bound) (Nat.not_le.mpr inside)
  · intro succeed
    refine le_sInf ?_
    rintro _ ⟨k, f, rfl, faulted⟩
    refine Nat.cast_le.mpr (Nat.le_of_not_lt fun inside => ?_)
    rw [succeed k inside] at faulted
    cases faulted

theorem cyclesBeforeFault_of_error (faulted : m.cycle = (.error f, after)) :
    m.cyclesBeforeFault = 0 := by
  have least : m.cyclesBeforeFault ≤ (0 : Nat) := sInf_le ⟨0, f, rfl, congrArg Prod.fst faulted⟩
  exact le_antisymm least bot_le

theorem cyclesBeforeFault_of_ok (success : m.cycle = (.ok (), after)) :
    m.cyclesBeforeFault = after.cyclesBeforeFault + 1 := by
  have next (k : Nat) : m.afterCycles (k + 1) = after.afterCycles k := by
    rw [afterCycles_succ, success]
  refine ENat.eq_of_forall_natCast_le_iff fun n => ?_
  cases n with
  | zero => simp
  | succ n =>
    rw [le_cyclesBeforeFault_iff, Nat.cast_add, Nat.cast_one,
      ENat.add_le_add_iff_right ENat.one_ne_top, le_cyclesBeforeFault_iff, Nat.forall_lt_succ_left]
    simp only [next]
    exact and_iff_right (congrArg Prod.fst success)

end Machine

namespace Trace

variable {m after : Machine} {f : Fault} {n n' : Nat}

/-- The trace of at most `n` cycles of a machine up to its first fault. -/
structure OfRun (m : Machine) (n : Nat) (t : Trace) : Prop where
  length : (t.length : ENat) = min (n : ENat) (m.cyclesBeforeFault + 1)
  snapshots : ∀ (i : Nat) (inside : i < t.length), t[i] = (m.afterCycles (i + 1)).snapshot
  running : ∀ (i : Nat) (inside : i + 1 < t.length), t[i].halted = false
  /-- The last snapshot shows a stopped machine exactly if the bound lies past the fault. -/
  last : (∃ s, t.getLast? = some s ∧ s.halted = true) ↔ m.cyclesBeforeFault < n

theorem record_of_error (faulted : m.cycle = (.error f, after)) (n : Nat) :
    (record (n + 1) m).trace = [after.snapshot] := by
  simp only [record, faulted]

theorem record_of_ok (success : m.cycle = (.ok (), after)) (n : Nat) :
    (record (n + 1) m).trace = after.snapshot :: (record n after).trace := by
  simp only [record, success]

/-- A recording is empty if no cycle is asked for, a single snapshot if the first one faults, and
else a snapshot in front of the recording of what the first one leaves. -/
theorem record_induction {P : Nat → Machine → Trace → Prop} (empty : ∀ m, P 0 m [])
    (stops : ∀ n m f after, m.cycle = (.error f, after) → P (n + 1) m [after.snapshot])
    (goesOn : ∀ n m after t, m.cycle = (.ok (), after) → P n after t →
      P (n + 1) m (after.snapshot :: t)) (n : Nat) (m : Machine) : P n m (record n m).trace := by
  induction n generalizing m with
  | zero => exact empty m
  | succ n ih =>
    rcases result : m.cycle with ⟨f | ⟨⟩, after⟩
    · rw [record_of_error result]
      exact stops n m f after result
    · rw [record_of_ok result]
      exact goesOn n m after _ result (ih after)

theorem ofRun_nil (m : Machine) : OfRun m 0 [] where
  length := by simp
  snapshots i inside := absurd inside (Nat.not_lt_zero i)
  running i inside := absurd inside (Nat.not_lt_zero (i + 1))
  last := by simp

theorem ofRun_of_error (faulted : m.cycle = (.error f, after)) (n : Nat) :
    OfRun m (n + 1) [after.snapshot] := by
  have none := Machine.cyclesBeforeFault_of_error faulted
  constructor
  case length =>
    rw [none, zero_add]
    exact (min_eq_right (Nat.one_le_cast.mpr (Nat.le_add_left 1 n))).symm
  case snapshots =>
    intro i inside
    obtain rfl := Nat.lt_one_iff.mp inside
    rw [Machine.afterCycles_succ, faulted]
    rfl
  case running =>
    intro i inside
    exact absurd inside (by simp)
  case last =>
    have stopped : after.snapshot.halted = true := Machine.halted_of_cycle_error faulted
    have positive : ((0 : Nat) : ENat) < (n + 1 : Nat) := Nat.cast_lt.mpr (Nat.succ_pos n)
    rw [none]
    exact ⟨fun _ => positive, fun _ => ⟨_, rfl, stopped⟩⟩

theorem ofRun_cons (success : m.cycle = (.ok (), after)) {t : Trace} (rest : OfRun after n t) :
    OfRun m (n + 1) (after.snapshot :: t) := by
  have running : after.snapshot.halted = false := Machine.halted_of_cycle_ok success
  have next := Machine.cyclesBeforeFault_of_ok success
  constructor
  case length =>
    rw [next, List.length_cons, Nat.cast_add, Nat.cast_add, Nat.cast_one, rest.length,
      min_add_add_right]
  case snapshots =>
    intro i inside
    rw [Machine.afterCycles_succ, success]
    cases i with
    | zero => rfl
    | succ i => exact rest.snapshots i (Nat.lt_of_succ_lt_succ inside)
  case running =>
    intro i inside
    cases i with
    | zero => exact running
    | succ i => exact rest.running i (Nat.lt_of_succ_lt_succ inside)
  case last =>
    rw [next, Nat.cast_add, Nat.cast_one, ENat.add_lt_add_iff_right ENat.one_ne_top, ← rest.last,
      List.getLast?_cons]
    -- the snapshot of this cycle is the last only if there is no later one, and it is not stopped
    cases t.getLast? with
    | none => simp [running]
    | some s => simp

theorem ofRun_record (n : Nat) (m : Machine) : OfRun m n (record n m).trace :=
  record_induction (P := fun n m t => OfRun m n t) ofRun_nil
    (fun n _ _ _ faulted => ofRun_of_error faulted n)
    (fun _ _ _ _ success rest => ofRun_cons success rest) n m

/-- A larger bound only adds to the recording. -/
theorem record_grows (m : Machine) (le : n ≤ n') :
    (record n m).trace <+: (record n' m).trace := by
  induction n generalizing m n' with
  | zero => exact List.nil_prefix
  | succ n ih =>
    obtain ⟨n', rfl⟩ := Nat.exists_eq_add_one_of_ne_zero (Nat.ne_zero_of_lt le)
    rcases result : m.cycle with ⟨f | ⟨⟩, after⟩
    · rw [record_of_error result, record_of_error result]
    · rw [record_of_ok result, record_of_ok result]
      exact List.cons_prefix_cons.mpr ⟨rfl, ih after (Nat.le_of_succ_le_succ le)⟩

theorem length_record_of_lt (past : m.cyclesBeforeFault < n) :
    ((record n m).trace.length : ENat) = m.cyclesBeforeFault + 1 := by
  rw [(ofRun_record n m).length]
  exact min_eq_right (Order.add_one_le_of_lt past)

/-- Nothing is recorded past the first fault. -/
theorem record_eq_of_lt (past : m.cyclesBeforeFault < n) (past' : m.cyclesBeforeFault < n') :
    (record n m).trace = (record n' m).trace := by
  have equal := (length_record_of_lt past).trans (length_record_of_lt past').symm
  have same : (record n m).trace.length = (record n' m).trace.length :=
    Nat.cast_injective (R := ENat) equal
  rcases Nat.le_total n n' with le | le
  · exact (record_grows m le).eq_of_length same
  · exact ((record_grows m le).eq_of_length same.symm).symm

end Trace

end Chip8

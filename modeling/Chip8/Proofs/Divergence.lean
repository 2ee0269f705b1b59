import Mathlib.Data.ENat.Lattice
import Chip8.Proofs.TraceRoundTrip

/-!
# Where traces part

The comparison of two traces walks along both at once. What it finds is described without the walk: no
difference for equal traces (`firstDivergence_eq_none_iff`), the length where one trace ends and the
other goes on (`firstDivergence_eq_length_iff`), and else the first cycle whose states differ, with the
first field in which they do (`firstDivergence_eq_field_iff`). The place at which two traces part is the
greatest length to which they agree (`le_partingCycle_iff`), so that it behaves like a distance between
traces: the same in both directions, and for three traces never less than the smaller of two. What is
reported, with the name of a field, says no less (`divergence_exact`).
-/

namespace Chip8

namespace Snapshot

variable {s s' : Snapshot} {f : Field}

theorem Field.name_injective : Function.Injective Field.name := by
  intro f g same
  have read := congrArg ofName? same
  rw [ofName?_name, ofName?_name] at read
  exact Option.some.inj read

/-- Two snapshots differ in the field, and in none that comes before it. -/
structure DiffersFirstIn (s s' : Snapshot) (f : Field) : Prop where
  differs : s.get f ≠ s'.get f
  before : ∃ earlier later, Field.all = earlier ++ f :: later ∧ ∀ g ∈ earlier, s.get g = s'.get g

theorem firstDifference_eq_some_iff :
    s.firstDifference s' = some f ↔ s.DiffersFirstIn s' f := by
  simp only [firstDifference, List.find?_eq_some_iff_append, ne_eq, decide_not,
    Bool.not_eq_eq_eq_not, Bool.not_true, decide_eq_false_iff_not, Bool.not_not, decide_eq_true_eq]
  constructor
  · rintro ⟨differs, before⟩
    exact ⟨differs, before⟩
  · rintro ⟨differs, before⟩
    exact ⟨differs, before⟩

theorem firstDifference_comm (s s' : Snapshot) : s.firstDifference s' = s'.firstDifference s := by
  simp only [firstDifference, ne_comm]

end Snapshot

namespace Trace

open Snapshot

variable {s s' : Snapshot} {t u : Trace} {cycle : Nat} {f : Field}

theorem divergenceFrom_eq_map (cycle : Nat) (t u : Trace) :
    divergenceFrom cycle t u =
      (firstDivergence t u).map fun parting => (cycle + parting.1, parting.2) := by
  induction t generalizing cycle u with
  | nil => cases u <;> rfl
  | cons s t ih =>
    cases u with
    | nil => rfl
    | cons s' u =>
      simp only [firstDivergence, divergenceFrom]
      cases s.firstDifference s' with
      | some f => rfl
      | none =>
        simp only [ih (cycle + 1), ih (0 + 1), Option.map_map]
        congr 1
        funext parting
        simp only [Nat.add_assoc, Nat.zero_add, Function.comp_apply]

theorem firstDivergence_cons (s s' : Snapshot) (t u : Trace) :
    firstDivergence (s :: t) (s' :: u) =
      match s.firstDifference s' with
      | some f => some (0, .field f)
      | none => (firstDivergence t u).map fun parting => (parting.1 + 1, parting.2) := by
  rw [firstDivergence, divergenceFrom]
  cases s.firstDifference s' with
  | some f => rfl
  | none => simp only [divergenceFrom_eq_map (0 + 1), Nat.add_comm]

/-- Two traces part at their first states, or these are the same and the traces part later. -/
theorem firstDivergence_cons_eq_some_iff {d : Difference} :
    firstDivergence (s :: t) (s' :: u) = some (cycle, d) ↔
      (cycle = 0 ∧ ∃ f, d = .field f ∧ s.DiffersFirstIn s' f) ∨
        ∃ later, cycle = later + 1 ∧ s = s' ∧ firstDivergence t u = some (later, d) := by
  rw [firstDivergence_cons]
  cases difference : s.firstDifference s' with
  | some f =>
    have other : s ≠ s' := by
      intro same
      rw [(firstDifference_eq_none_iff s s').mpr same] at difference
      cases difference
    simp only [← firstDifference_eq_some_iff, difference]
    simp [other, eq_comm]
  | none =>
    have same := (firstDifference_eq_none_iff s s').mp difference
    simp only [← firstDifference_eq_some_iff, difference]
    simp [same, eq_comm, and_comm]

/-! ## No difference, and a field -/

theorem firstDivergence_eq_none_iff : firstDivergence t u = none ↔ t = u := by
  induction t generalizing u with
  | nil => cases u <;> simp [firstDivergence, divergenceFrom]
  | cons s t ih =>
    cases u with
    | nil => simp [firstDivergence, divergenceFrom]
    | cons s' u =>
      rw [firstDivergence_cons, List.cons.injEq, ← firstDifference_eq_none_iff, ← ih]
      cases s.firstDifference s' <;> simp

/-- The states of two traces are the same before the cycle, and there they differ, first in the
field. -/
structure PartsIn (t u : Trace) (cycle : Nat) (f : Field) : Prop where
  states : ∃ s s', t[cycle]? = some s ∧ u[cycle]? = some s' ∧ s.DiffersFirstIn s' f
  before : ∀ k < cycle, t[k]? = u[k]?

theorem partsIn_cons_iff : PartsIn (s :: t) (s' :: u) cycle f ↔
    (cycle = 0 ∧ s.DiffersFirstIn s' f) ∨
      ∃ later, cycle = later + 1 ∧ s = s' ∧ PartsIn t u later f := by
  cases cycle with
  | zero =>
    constructor
    · rintro ⟨⟨_, _, ⟨⟩, ⟨⟩, differs⟩, _⟩
      exact .inl ⟨rfl, differs⟩
    · rintro (⟨_, differs⟩ | ⟨_, impossible, _⟩)
      · exact ⟨⟨s, s', rfl, rfl, differs⟩, fun k below => absurd below (Nat.not_lt_zero k)⟩
      · cases impossible
  | succ later =>
    constructor
    · rintro ⟨states, before⟩
      obtain ⟨first, rest⟩ := Nat.forall_lt_succ_left.mp before
      exact .inr ⟨later, rfl, Option.some.inj first, states, rest⟩
    · rintro (⟨impossible, _⟩ | ⟨_, ⟨⟩, rfl, states, before⟩)
      · cases impossible
      · exact ⟨states, Nat.forall_lt_succ_left.mpr ⟨rfl, before⟩⟩

theorem firstDivergence_eq_field_iff :
    firstDivergence t u = some (cycle, .field f) ↔ PartsIn t u cycle f := by
  induction t generalizing u cycle with
  | nil =>
    constructor
    · intro impossible
      cases u <;> cases impossible
    · rintro ⟨⟨_, _, ⟨⟩, _⟩, _⟩
  | cons s t ih =>
    cases u with
    | nil =>
      constructor
      · intro impossible
        cases impossible
      · rintro ⟨⟨_, _, _, ⟨⟩, _⟩, _⟩
    | cons s' u =>
      rw [firstDivergence_cons_eq_some_iff, partsIn_cons_iff]
      simp [ih]

/-! ## Traces of different length -/

/-- One of two traces ends at the cycle, and the other one begins with it and goes on. -/
structure EndsAt (t u : Trace) (cycle : Nat) : Prop where
  begins : t <+: u ∨ u <+: t
  differ : t ≠ u
  shorter : cycle = min t.length u.length

theorem endsAt_cons_iff : EndsAt (s :: t) (s' :: u) cycle ↔
    ∃ later, cycle = later + 1 ∧ s = s' ∧ EndsAt t u later := by
  constructor
  · rintro ⟨begins, differ, shorter⟩
    have both : s = s' ∧ (t <+: u ∨ u <+: t) := by
      rcases begins with left | right
      · obtain ⟨first, rest⟩ := List.cons_prefix_cons.mp left
        exact ⟨first, .inl rest⟩
      · obtain ⟨first, rest⟩ := List.cons_prefix_cons.mp right
        exact ⟨first.symm, .inr rest⟩
    obtain ⟨rfl, rest⟩ := both
    refine ⟨min t.length u.length, ?_, rfl, rest, fun same => differ (by rw [same]), rfl⟩
    rw [shorter, List.length_cons, List.length_cons]
    omega
  · rintro ⟨later, rfl, rfl, begins, differ, rfl⟩
    refine ⟨begins.imp ?_ ?_, fun same => differ (List.cons.inj same).2, ?_⟩
    · exact fun left => List.cons_prefix_cons.mpr ⟨rfl, left⟩
    · exact fun right => List.cons_prefix_cons.mpr ⟨rfl, right⟩
    · rw [List.length_cons, List.length_cons]
      omega

theorem firstDivergence_eq_length_iff :
    firstDivergence t u = some (cycle, .length) ↔ EndsAt t u cycle := by
  induction t generalizing u cycle with
  | nil =>
    cases u with
    | nil =>
      constructor
      · intro impossible
        cases impossible
      · rintro ⟨_, differ, _⟩
        exact absurd rfl differ
    | cons s' u =>
      constructor
      · rintro ⟨⟩
        exact ⟨.inl List.nil_prefix, by simp, by simp⟩
      · rintro ⟨_, _, rfl⟩
        simp [firstDivergence, divergenceFrom]
  | cons s t ih =>
    cases u with
    | nil =>
      constructor
      · rintro ⟨⟩
        exact ⟨.inr List.nil_prefix, by simp, by simp⟩
      · rintro ⟨_, _, rfl⟩
        simp [firstDivergence, divergenceFrom]
    | cons s' u =>
      rw [firstDivergence_cons_eq_some_iff, endsAt_cons_iff]
      simp [ih]

/-- Two traces are equal, or one ends where the other goes on, or they part in a field. -/
theorem parting_cases (t u : Trace) :
    t = u ∨ (∃ cycle, EndsAt t u cycle) ∨ ∃ cycle f, PartsIn t u cycle f := by
  simp only [← firstDivergence_eq_none_iff, ← firstDivergence_eq_length_iff,
    ← firstDivergence_eq_field_iff]
  match firstDivergence t u with
  | none => exact .inl rfl
  | some (cycle, .length) => exact .inr (.inl ⟨cycle, rfl⟩)
  | some (cycle, .field f) => exact .inr (.inr ⟨cycle, f, rfl⟩)

/-! ## As a distance -/

theorem firstDivergence_comm (t u : Trace) : firstDivergence t u = firstDivergence u t := by
  induction t generalizing u with
  | nil => cases u <;> rfl
  | cons s t ih =>
    cases u with
    | nil => rfl
    | cons s' u => rw [firstDivergence_cons, firstDivergence_cons, firstDifference_comm, ih]

/-- The cycle at which two traces part, infinite if they are equal. -/
def partingCycle (t u : Trace) : ENat :=
  match firstDivergence t u with
  | none => ⊤
  | some (cycle, _) => cycle

theorem partingCycle_cons (s s' : Snapshot) (t u : Trace) :
    partingCycle (s :: t) (s' :: u) = if s = s' then partingCycle t u + 1 else 0 := by
  simp only [partingCycle, firstDivergence_cons, ← firstDifference_eq_none_iff]
  cases s.firstDifference s' with
  | some f => simp
  | none => cases firstDivergence t u <;> simp

/-- Two traces agree exactly up to where they part. -/
theorem le_partingCycle_iff {n : Nat} :
    (n : ENat) ≤ partingCycle t u ↔ ∀ k < n, t[k]? = u[k]? := by
  induction n generalizing t u with
  | zero => simp
  | succ n ih =>
    rw [Nat.forall_lt_succ_left]
    cases t with
    | nil => cases u <;> simp [partingCycle, firstDivergence, divergenceFrom]
    | cons s t =>
      cases u with
      | nil => simp [partingCycle, firstDivergence, divergenceFrom]
      | cons s' u =>
        rw [partingCycle_cons]
        split
        · rename_i same
          rw [Nat.cast_add, Nat.cast_one, ENat.add_le_add_iff_right ENat.one_ne_top, ih]
          simp [same]
        · rename_i other
          simp [other]

theorem min_partingCycle_le (t u v : Trace) :
    min (partingCycle t u) (partingCycle u v) ≤ partingCycle t v := by
  refine ENat.forall_natCast_le_iff_le.mp fun n below => ?_
  obtain ⟨first, second⟩ := le_min_iff.mp below
  refine le_partingCycle_iff.mpr fun k inside => ?_
  exact (le_partingCycle_iff.mp first k inside).trans (le_partingCycle_iff.mp second k inside)

/-! ## What is reported -/

theorem Difference.name_injective : Function.Injective Difference.name := by
  have fieldOfLength : Field.ofName? length.name = none := by decide
  intro d e same
  have read := congrArg Field.ofName? same
  cases d with
  | length =>
    cases e with
    | length => rfl
    | field f =>
      rw [fieldOfLength, name, Field.ofName?_name] at read
      cases read
  | field f =>
    cases e with
    | length =>
      rw [fieldOfLength, name, Field.ofName?_name] at read
      cases read
    | field g => rw [Field.name_injective same]

/-- Where two traces part, with the name of what they differ in. -/
def divergenceReport (t u : Trace) : Option (Nat × String) :=
  (firstDivergence t u).map fun parting => (parting.1, parting.2.name)

theorem divergenceReport_eq_some_iff {d : Difference} :
    divergenceReport t u = some (cycle, d.name) ↔ firstDivergence t u = some (cycle, d) := by
  have namesPair :
      Function.Injective fun parting : Nat × Difference => (parting.1, parting.2.name) := by
    intro parting other same
    obtain ⟨cycles, names⟩ := Prod.mk.inj same
    exact Prod.ext cycles (Difference.name_injective names)
  exact (Option.map_injective namesPair).eq_iff' rfl

/-- What is reported of two traces says exactly whether and where they part, and in what. -/
structure ReportedExactly (t u : Trace) : Prop where
  none_iff : divergenceReport t u = none ↔ t = u
  length_iff : ∀ cycle, divergenceReport t u = some (cycle, "length") ↔ EndsAt t u cycle
  field_iff : ∀ cycle f, divergenceReport t u = some (cycle, f.name) ↔ PartsIn t u cycle f
  cases : t = u ∨ (∃ cycle, EndsAt t u cycle) ∨ ∃ cycle f, PartsIn t u cycle f
  symmetric : divergenceReport t u = divergenceReport u t

/-- The comparison of traces is exact, and the cycle at which they part is a distance: traces that
part at some cycle cannot both agree with a third one for longer. -/
theorem divergence_exact (t u v : Trace) :
    ReportedExactly t u ∧ min (partingCycle t u) (partingCycle u v) ≤ partingCycle t v := by
  refine ⟨?_, min_partingCycle_le t u v⟩
  exact {
    none_iff := by rw [divergenceReport, Option.map_eq_none_iff, firstDivergence_eq_none_iff]
    length_iff := fun _ =>
      (divergenceReport_eq_some_iff (d := .length)).trans firstDivergence_eq_length_iff
    field_iff := fun _ f =>
      (divergenceReport_eq_some_iff (d := .field f)).trans firstDivergence_eq_field_iff
    cases := parting_cases t u
    symmetric := by rw [divergenceReport, divergenceReport, firstDivergence_comm] }

end Trace

end Chip8

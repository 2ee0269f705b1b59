import Chip8.Proofs.SkipLocality
import Chip8.Proofs.TraceRoundTrip
import Mathlib.Data.List.TakeWhile

/-!
# Damaged traces

A text that reads as a trace still does with blanks behind it, and with anything else behind it is
refused (`read_append`): the readers of snapshots stop at a closing bracket, whatever follows. A
written trace ends with a bracket and not with a blank, so no shorter text at its front reads as a
trace, of which it would be the continuation (`read_damaged`).
-/

namespace Chip8

open Json

variable {s rest : List UInt8} {size longer : Nat}

/-! ## Values of fields -/

theorem Scalar.read_local (s : Scalar) : Local s.read s.read :=
  match s with
  | byte => readByte_local
  | word => readWord_local
  | flag => readFlag_local

theorem Shape.read_local (s : Shape) (enough : size ≤ longer) :
    Local (s.read size) (s.read longer) := by
  cases s with
  | one s => exact s.read_local
  | sixteen s => exact fun _ _ _ read _ tail => readSixteen_append s.read_local read tail
  | bytes =>
    have listed : Local (readList size readByte) (readList longer readByte) :=
      fun _ _ _ read _ tail => readList_append readByte_local enough read tail
    exact listed.map List.toArray

namespace Snapshot

/-! ## Snapshots -/

theorem ne_nil_of_readMembers {fuel : Nat} {p q : Partial}
    (read : readMembers size fuel false p s = .ok (q, rest)) : s ≠ [] := by
  intro none
  subst none
  cases fuel <;> cases read

theorem readMembers_append (enough : size ≤ longer) {fuel steps : Nat} (most : fuel ≤ steps)
    {first : Bool} {p q : Partial} (read : readMembers size fuel first p s = .ok (q, rest))
    (tail : List UInt8) :
    readMembers longer steps first p (s ++ tail) = .ok (q, rest ++ tail) := by
  induction fuel generalizing steps first p s with
  | zero => cases read
  | succ fuel ih =>
    obtain ⟨steps, rfl⟩ := Nat.exists_eq_add_one_of_ne_zero (Nat.ne_zero_of_lt most)
    have fewer : fuel ≤ steps := Nat.le_of_succ_le_succ most
    rw [readMembers] at read ⊢
    obtain ⟨next, found, read⟩ := exists_of_bind_eq_ok read
    rw [nextInObject_append found tail]
    cases next with
    | close after =>
      cases read
      rfl
    | item inside =>
      obtain ⟨⟨name, behindName⟩, key, read⟩ := exists_of_bind_eq_ok read
      simp only [Next.append, bind, Except.bind, readString_append key tail]
      cases known : Field.ofName? name with
      | none =>
        simp only [known] at read ⊢
        obtain ⟨value, colon, read⟩ := exists_of_bind_eq_ok read
        obtain ⟨after, skipped, read⟩ := exists_of_bind_eq_ok read
        have more : after ≠ [] := ne_nil_of_readMembers read
        simp only [expectColon_append colon tail, skipValue_append enough skipped more tail]
        exact ih fewer read
      | some f =>
        simp only [known] at read ⊢
        split at read
        · cases read
        · rename_i new
          obtain ⟨value, colon, read⟩ := exists_of_bind_eq_ok read
          obtain ⟨⟨v, after⟩, found, read⟩ := exists_of_bind_eq_ok read
          have more : after ≠ [] := ne_nil_of_readMembers read
          simp only [if_neg new, expectColon_append colon tail,
            f.shape.read_local enough found more tail]
          exact ih fewer read

theorem ne_nil_of_readInOrder {fields : List Field} {before : Nat} {p q : Partial}
    (read : readInOrder size fields before p s = .ok (q, rest)) : s ≠ [] := by
  intro none
  subst none
  cases fields <;> cases read

theorem readInOrder_append (enough : size ≤ longer) {fields : List Field} {before : Nat}
    {p q : Partial} (read : readInOrder size fields before p s = .ok (q, rest))
    (tail : List UInt8) :
    readInOrder longer fields before p (s ++ tail) = .ok (q, rest ++ tail) := by
  induction fields generalizing before p s with
  | nil =>
    rw [readInOrder] at read ⊢
    obtain ⟨after, closed, read⟩ := exists_of_bind_eq_ok read
    cases read
    rw [closeFullList_append closed tail]
    rfl
  | cons f fields ih =>
    rw [readInOrder] at read ⊢
    obtain ⟨next, found, read⟩ := exists_of_bind_eq_ok read
    rw [nextInList_append found tail]
    cases next with
    | close after => cases read
    | item inside =>
      obtain ⟨⟨v, after⟩, value, read⟩ := exists_of_bind_eq_ok read
      have more : after ≠ [] := ne_nil_of_readInOrder read
      simp only [Next.append, bind, Except.bind, f.shape.read_local enough value more tail]
      exact ih read

theorem read_local (enough : size ≤ longer) : Local (read size) (read longer) := by
  intro s v rest found _ tail
  unfold read at found ⊢
  split at found
  · cases found
  · rename_i b after front
    simp only [skipBlank_append_of_eq_cons front tail]
    refine ite_imp ?object (ite_imp ?list error_imp) found
    case object =>
      intro read
      obtain ⟨⟨p, behind⟩, members, read⟩ := exists_of_bind_eq_ok read
      obtain ⟨snapshot, complete, read⟩ := exists_of_bind_eq_ok read
      cases read
      have all := readMembers_append enough (Nat.succ_le_succ enough) members tail
      simp only [all, complete, bind, Except.bind]
      rfl
    case list =>
      intro read
      obtain ⟨⟨p, behind⟩, values, read⟩ := exists_of_bind_eq_ok read
      obtain ⟨snapshot, complete, read⟩ := exists_of_bind_eq_ok read
      cases read
      simp only [readInOrder_append enough values tail, complete, bind, Except.bind]
      rfl

end Snapshot

namespace Trace

variable {t : Trace}

/-! ## Whole texts -/

theorem expectEnd_eq_ok_iff (s : List UInt8) :
    expectEnd s = .ok () ↔ ∀ b ∈ s, Byte.isBlank b = true := by
  rw [← List.dropWhile_eq_nil_iff, ← skipBlank, expectEnd]
  split <;> simp [*]

theorem expectEnd_eq_error {s : List UInt8} (solid : ∃ b ∈ s, Byte.isBlank b = false) :
    expectEnd s = .error .trailingCharacters := by
  obtain ⟨b, member, solid⟩ := solid
  rw [expectEnd]
  split
  · rename_i blank
    have all := List.dropWhile_eq_nil_iff.mp blank b member
    rw [solid] at all
    cases all
  · rfl

theorem read_append (found : Trace.read s = .ok t) (tail : List UInt8) :
    Trace.read (s ++ tail) = (expectEnd tail).map fun _ => t := by
  obtain ⟨⟨t, rest⟩, listed, found⟩ := exists_of_bind_eq_ok found
  obtain ⟨⟨⟩, ends, found⟩ := exists_of_bind_eq_ok found
  cases found
  have enough : s.length ≤ (s ++ tail).length := by simp
  have longer := readList_append (Snapshot.read_local enough) enough listed tail
  have onlyBlank : expectEnd (rest ++ tail) = expectEnd tail := by
    have blank := List.dropWhile_eq_nil_iff.mpr ((expectEnd_eq_ok_iff rest).mp ends)
    simp only [expectEnd, skipBlank, List.dropWhile_append, blank, List.isEmpty_nil, if_true]
  rw [Trace.read, longer]
  simp only [bind, Except.bind, onlyBlank]
  cases expectEnd tail <;> rfl

theorem read_append_of_blank (found : Trace.read s = .ok t) {tail : List UInt8}
    (blank : ∀ b ∈ tail, Byte.isBlank b = true) : Trace.read (s ++ tail) = .ok t := by
  rw [read_append found, (expectEnd_eq_ok_iff tail).mpr blank]
  rfl

theorem read_append_of_solid (found : Trace.read s = .ok t) {tail : List UInt8}
    (solid : ∃ b ∈ tail, Byte.isBlank b = false) :
    Trace.read (s ++ tail) = .error .trailingCharacters := by
  rw [read_append found, expectEnd_eq_error solid]
  rfl

/-- Whatever is cut off the text of a trace includes its closing bracket. -/
theorem closeList_mem_of_append_eq_print {front tail : List UInt8} (whole : front ++ tail = t.print)
    (cut : tail ≠ []) : Byte.closeList ∈ tail := by
  have last := congrArg List.getLast? whole
  rw [List.getLast?_append, List.getLast?_eq_some_getLast cut, Option.some_or, print, printList,
    List.getLast?_concat, Option.some.injEq] at last
  exact last ▸ List.getLast_mem cut

/-- The text of a trace that is cut short anywhere is refused, and so is one that goes on. Blanks
behind it change nothing. -/
theorem read_damaged (t : Trace) :
    (∀ front, front <+: t.print → front ≠ t.print → ∃ e, Trace.read front = .error e) ∧
    (∀ tail, (∃ b ∈ tail, Byte.isBlank b = false) → ∃ e, Trace.read (t.print ++ tail) = .error e) ∧
    ∀ tail, (∀ b ∈ tail, Byte.isBlank b = true) → Trace.read (t.print ++ tail) = .ok t := by
  refine ⟨fun front ⟨tail, whole⟩ proper => ?_, fun tail solid => ?_, fun tail blank => ?_⟩
  · cases found : Trace.read front with
    | error e => exact ⟨e, rfl⟩
    | ok other =>
      have cut : tail ≠ [] := by
        intro none
        rw [none, List.append_nil] at whole
        exact proper whole
      -- Then the whole text would be one with characters behind a trace.
      have refused := read_append_of_solid found
        ⟨_, closeList_mem_of_append_eq_print whole cut, by decide⟩
      rw [whole, t.read_print] at refused
      cases refused
  · exact ⟨_, read_append_of_solid t.read_print solid⟩
  · exact read_append_of_blank t.read_print blank

theorem read_damaged_fresh :
    (∃ e, Trace.read (print [(Machine.fresh ⟨Vector.replicate 8 0, 0⟩).snapshot]).dropLast =
      .error e) ∧
    (∃ e, Trace.read (print [(Machine.fresh ⟨Vector.replicate 8 0, 0⟩).snapshot] ++ [0x7D]) =
      .error e) ∧
    Trace.read (print [(Machine.fresh ⟨Vector.replicate 8 0, 0⟩).snapshot] ++ [0x20, 0x0A]) =
      .ok [(Machine.fresh ⟨Vector.replicate 8 0, 0⟩).snapshot] := by
  have shorter (t : Trace) : t.print.dropLast ≠ t.print := by
    intro same
    have lengths := congrArg List.length same
    simp only [print, printList, List.length_dropLast, List.length_append, List.length_cons]
      at lengths
    omega
  obtain ⟨short, long, blank⟩ := read_damaged [(Machine.fresh ⟨Vector.replicate 8 0, 0⟩).snapshot]
  exact ⟨short _ (List.dropLast_prefix _) (shorter _),
    long _ ⟨_, List.mem_singleton_self _, by decide⟩, blank _ (by simp [Byte.isBlank])⟩

end Trace

end Chip8

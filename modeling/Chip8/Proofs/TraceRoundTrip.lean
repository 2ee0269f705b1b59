import Chip8.Proofs.JsonRoundTrip
import Chip8.Trace.Reader
import Chip8.Trace.Writer

/-!
# Reading written traces

A written trace reads back as the same trace (`print_round_trip`). Values of a field are read as
their shape says, the members of a snapshot one field after the other, and a snapshot is complete
when all fields have been read. The readers count what they read down from the length of the whole
text, so each of them needs to know that its own text is no longer than that.
-/

namespace Chip8

open Json

theorem Scalar.read_written (s : Scalar) (v : s.Value) : Written s.read v (s.print v) :=
  match s with
  | byte => readByte_written v
  | word => readWord_written v
  | flag => readFlag_written v

theorem printList_begins (items : List (List UInt8)) :
    ∃ b more, printList items = b :: more ∧ Byte.isBlank b = false ∧ b ≠ Byte.closeList :=
  ⟨_, _, rfl, by decide, by decide⟩

theorem length_lt_printList (items : List (List UInt8)) :
    items.length < (printList items).length := by
  have := length_le_separated items
  simp only [printList, List.length_append, List.length_cons]
  omega

theorem Shape.read_written (s : Shape) (v : s.Value) {size : Nat}
    (short : (s.print v).length ≤ size) : Written (s.read size) v (s.print v) := by
  cases s with
  | one s => exact s.read_written v
  | sixteen s =>
    exact ⟨printList_begins _, fun rest _ => readSixteen_written (fun a _ => s.read_written a) rest⟩
  | bytes =>
    refine ⟨printList_begins _, fun rest _ => ?_⟩
    have count := length_lt_printList (v.toList.map Scalar.byte.print)
    rw [List.length_map] at count
    have listed : readList size readByte (bytes.print v ++ rest) = .ok (v.toList, rest) :=
      readList_written (fun a _ => Scalar.byte.read_written a)
        (Nat.le_of_lt (Nat.lt_of_lt_of_le count short)) rest
    simp only [Shape.read, listed]
    rfl

namespace Snapshot

/-! ## Fields -/

theorem Field.ofName?_name (f : Field) : ofName? f.name = some f := by
  cases f <;> rfl

theorem Field.plain_name (f : Field) : Plain f.name := by
  cases f <;> decide

namespace Partial

variable {p : Partial} {s : Snapshot}

theorem insert_self (f : Field) (v : f.shape.Value) : p.insert f v f = some v := by
  simp [insert]

theorem insert_of_ne {f g : Field} (v : f.shape.Value) (other : f ≠ g) : p.insert f v g = p g := by
  simp [insert, other]

/-- Fields other than the one that is read are still to come. -/
theorem insert_eq_none {f : Field} {fields : List Field} (v : f.shape.Value) (new : f ∉ fields)
    (missing : ∀ g ∈ fields, p g = none) : ∀ g ∈ fields, p.insert f v g = none := by
  intro g member
  have other : f ≠ g := fun same => new (same ▸ member)
  rw [insert_of_ne v other]
  exact missing g member

/-- The values of the given fields of a snapshot, on top of those already read. -/
def insertAll (p : Partial) (s : Snapshot) : List Field → Partial
  | [] => p
  | f :: fields => (p.insert f (s.get f)).insertAll s fields

theorem insertAll_of_read {fields : List Field} {g : Field}
    (read : p g = some (s.get g) ∨ g ∈ fields) : p.insertAll s fields g = some (s.get g) := by
  induction fields generalizing p with
  | nil => exact read.resolve_right List.not_mem_nil
  | cons f fields ih =>
    refine ih ?_
    by_cases own : f = g
    · subst own
      exact .inl (insert_self f _)
    · rw [insert_of_ne _ own]
      exact read.imp id fun member => (List.mem_cons.mp member).resolve_left (Ne.symm own)

theorem complete_of_read (read : ∀ f, p f = some (s.get f)) : p.complete = .ok s := by
  unfold complete
  split
  · rename_i f found
    have missing := List.find?_some found
    simp [read f] at missing
  · simp only [read, Option.get_some]
    rfl

end Partial

/-! ## Members -/

/-- The members of the given fields after the first one, each behind its comma. -/
def members (s : Snapshot) (fields : List Field) : List UInt8 :=
  fields.flatMap fun f => Byte.comma :: printMember f.name (f.shape.print (s.get f))

theorem endsValue_members (s : Snapshot) (fields : List Field) (rest : List UInt8) :
    EndsValue (s.members fields ++ Byte.closeObject :: rest) := by
  cases fields with
  | nil => exact ⟨_, _, rfl, .inr (.inr rfl)⟩
  | cons f fields => exact ⟨_, _, rfl, .inl rfl⟩

theorem nextInObject_close (first : Bool) (rest : List UInt8) :
    nextInObject first (Byte.closeObject :: rest) = .ok (.close rest) := by
  rw [nextInObject, skipBlank_cons (by decide)]
  rfl

theorem nextInObject_first (rest : List UInt8) :
    nextInObject true (Byte.quote :: rest) = .ok (.item rest) := by
  rw [nextInObject, skipBlank_cons (by decide)]
  rfl

theorem nextInObject_later (rest : List UInt8) :
    nextInObject false (Byte.comma :: Byte.quote :: rest) = .ok (.item rest) := by
  rw [nextInObject, skipBlank_cons (by decide)]
  simp only [skipBlank_cons (show Byte.isBlank Byte.quote = false by decide)]
  rfl

theorem expectColon_colon (rest : List UInt8) :
    expectColon (Byte.colon :: rest) = .ok rest := by
  rw [expectColon, skipBlank_cons (by decide)]
  rfl

/-- One member is read and its value added; `next` is what the separator before it gives. -/
theorem readMembers_member {s : Snapshot} {size : Nat} (fuel : Nat) {first : Bool} {p : Partial}
    {f : Field} {text rest : List UInt8} (missing : p f = none)
    (short : (f.shape.print (s.get f)).length ≤ size) (ends : EndsValue rest)
    (next : nextInObject first text = .ok (.item
      (ascii f.name ++ Byte.quote :: Byte.colon :: (f.shape.print (s.get f) ++ rest)))) :
    readMembers size (fuel + 1) first p text =
      readMembers size fuel false (p.insert f (s.get f)) rest := by
  have value := (f.shape.read_written (s.get f) short).reads rest ends
  rw [readMembers, next]
  simp only [bind, Except.bind, readString_ascii f.plain_name, Field.ofName?_name, missing,
    expectColon_colon, value]
  rfl

theorem readMembers_members {s : Snapshot} {size : Nat} {fields : List Field}
    (distinct : fields.Nodup) (short : ∀ f ∈ fields, (f.shape.print (s.get f)).length ≤ size)
    {fuel : Nat} (enough : fields.length < fuel) {p : Partial} (missing : ∀ f ∈ fields, p f = none)
    (rest : List UInt8) :
    readMembers size fuel false p (s.members fields ++ Byte.closeObject :: rest) =
      .ok (p.insertAll s fields, rest) := by
  induction fields generalizing fuel p with
  | nil =>
    obtain ⟨fuel, rfl⟩ := Nat.exists_eq_add_one_of_ne_zero (Nat.ne_of_gt enough)
    rw [members, List.flatMap_nil, List.nil_append, readMembers, nextInObject_close]
    rfl
  | cons f fields ih =>
    obtain ⟨fuel, rfl⟩ := Nat.exists_eq_add_one_of_ne_zero (Nat.ne_zero_of_lt enough)
    obtain ⟨new, distinct⟩ := List.nodup_cons.mp distinct
    have still := Partial.insert_eq_none (s.get f) new
      fun g member => missing g (List.mem_cons_of_mem f member)
    have later := ih distinct (fun g member => short g (List.mem_cons_of_mem f member))
      (Nat.lt_of_succ_lt_succ enough) still
    have one := readMembers_member fuel
      (missing f List.mem_cons_self) (short f List.mem_cons_self)
      (endsValue_members s fields rest) (nextInObject_later _)
    simp only [members, List.flatMap_cons, printMember, List.cons_append, List.append_assoc]
      at one later ⊢
    rw [one, later]
    rfl

theorem readMembers_object (s : Snapshot) {size : Nat} {f : Field} {fields : List Field}
    (distinct : (f :: fields).Nodup)
    (short : ∀ g ∈ f :: fields, (g.shape.print (s.get g)).length ≤ size)
    (enough : fields.length < size) (rest : List UInt8) :
    readMembers size (size + 1) true .empty
        (printMember f.name (f.shape.print (s.get f)) ++
          (s.members fields ++ Byte.closeObject :: rest)) =
      .ok (Partial.empty.insertAll s (f :: fields), rest) := by
  obtain ⟨new, later⟩ := List.nodup_cons.mp distinct
  have missing := Partial.insert_eq_none (p := .empty) (s.get f) new fun _ _ => rfl
  have one := readMembers_member (s := s) (f := f) (p := .empty) size rfl
    (short f List.mem_cons_self) (endsValue_members s fields rest) (nextInObject_first _)
  have all := readMembers_members later (fun g member => short g (List.mem_cons_of_mem f member))
    enough missing rest
  rw [all] at one
  simp only [printMember, List.cons_append, List.append_assoc]
  exact one

theorem print_eq_cons (s : Snapshot) (rest : List UInt8) : ∃ f fields, Field.all = f :: fields ∧
    s.print ++ rest = Byte.openObject :: (printMember f.name (f.shape.print (s.get f)) ++
      (s.members fields ++ Byte.closeObject :: rest)) := by
  refine ⟨.memory, Field.all.tail, rfl, ?_⟩
  have listed : Field.all = .memory :: Field.all.tail := rfl
  rw [print, listed]
  simp only [printObject, List.map_cons, separated_cons, members, List.flatMap_map,
    List.append_assoc, List.cons_append, List.nil_append]
  rfl

/-- The text of a snapshot is longer than that of any of its values, and than its number of
members. -/
theorem length_print (s : Snapshot) :
    Field.all.length < s.print.length ∧
      ∀ f : Field, (f.shape.print (s.get f)).length ≤ s.print.length := by
  have count := length_le_separated
    (Field.all.map fun f => printMember f.name (f.shape.print (s.get f)))
  constructor
  · simp only [print, printObject, List.length_append, List.length_cons, List.length_map] at count ⊢
    omega
  · intro f
    have member := length_le_separated_of_mem (List.mem_map_of_mem
      (f := fun f => printMember f.name (f.shape.print (s.get f))) (Field.mem_all f))
    simp only [print, printObject, printMember, List.length_append, List.length_cons] at member ⊢
    omega

theorem read_written (s : Snapshot) {size : Nat} (short : s.print.length ≤ size) :
    Written (read size) s s.print := by
  obtain ⟨count, values⟩ := s.length_print
  refine ⟨⟨_, _, rfl, by decide, by decide⟩, fun rest _ => ?_⟩
  obtain ⟨f, fields, listed, text⟩ := s.print_eq_cons rest
  rw [listed] at count
  have found := s.readMembers_object (listed ▸ Field.nodup_all)
    (fun g _ => Nat.le_trans (values g) short)
    (Nat.lt_of_lt_of_le (Nat.lt_of_succ_lt count) short) rest
  have complete : (Partial.empty.insertAll s (f :: fields)).complete = .ok s :=
    Partial.complete_of_read fun g => Partial.insertAll_of_read (.inr (listed ▸ Field.mem_all g))
  rw [text, read, skipBlank_cons (by decide)]
  simp only [if_true, found, complete, bind, Except.bind]
  rfl

end Snapshot

namespace Trace

theorem divergenceFrom_self (cycle : Nat) (t : Trace) : divergenceFrom cycle t t = none := by
  induction t generalizing cycle with
  | nil => rfl
  | cons s rest ih =>
    simp only [divergenceFrom, (Snapshot.firstDifference_eq_none_iff s s).mpr rfl]
    exact ih (cycle + 1)

/-- A written trace is read up to its closing bracket, whatever comes behind it. -/
theorem readList_print (t : Trace) {size : Nat} (short : t.print.length ≤ size)
    (rest : List UInt8) :
    readList size (Snapshot.read size) (t.print ++ rest) = .ok (t, rest) := by
  have count : t.length < t.print.length := by
    have := length_lt_printList (t.map Snapshot.print)
    rwa [List.length_map] at this
  refine readList_written (fun s member => s.read_written ?_)
    (Nat.le_of_lt (Nat.lt_of_lt_of_le count short)) rest
  have part := length_le_separated_of_mem (List.mem_map_of_mem (f := Snapshot.print) member)
  simp only [print, printList, List.length_append, List.length_cons] at short
  omega

theorem read_print (t : Trace) : Trace.read t.print = .ok t := by
  have listed := t.readList_print (Nat.le_refl _) []
  rw [List.append_nil] at listed
  rw [Trace.read, listed]
  rfl

/-- The text of a trace reads back as that trace, so that the two part nowhere. -/
theorem print_round_trip (t : Trace) :
    Trace.read t.print = .ok t ∧ (Trace.read t.print).map t.firstDivergence = .ok none := by
  refine ⟨t.read_print, ?_⟩
  rw [t.read_print]
  exact congrArg Except.ok (divergenceFrom_self 0 t)

end Trace

end Chip8

/-!
# Sets of characters

Sets of characters as lists of ranges of code points, with the operations that patterns have for
them. Every range holds at least one number, so a set is empty just if its list is.
-/

namespace Chip8.Pattern

/-- Code points from a first to a last one. -/
structure CharRange where
  first : Nat
  last : Nat
  deriving DecidableEq, Repr

namespace CharRange

def contains (r : CharRange) (n : Nat) : Bool := r.first ≤ n && n ≤ r.last

/-- What is left of a range without another one. -/
def without (r cut : CharRange) : List CharRange :=
  (if r.first < cut.first then [⟨r.first, min r.last (cut.first - 1)⟩] else []) ++
    if cut.last < r.last then [⟨max r.first (cut.last + 1), r.last⟩] else []

/-- What two ranges have in common. -/
def common (r s : CharRange) : Option CharRange :=
  if max r.first s.first ≤ min r.last s.last then some ⟨max r.first s.first, min r.last s.last⟩
  else none

end CharRange

structure CharSet where
  ranges : List CharRange
  deriving DecidableEq, Repr

namespace CharSet

def empty : CharSet := ⟨[]⟩

def ofRange (first last : Nat) : CharSet := ⟨[⟨first, last⟩]⟩

def single (n : Nat) : CharSet := ofRange n n

/-- The set of the characters of a text. -/
def ofText (text : String) : CharSet := ⟨text.toList.map fun c => ⟨c.toNat, c.toNat⟩⟩

def contains (s : CharSet) (n : Nat) : Bool := s.ranges.any fun r => r.contains n

def union (s t : CharSet) : CharSet := ⟨s.ranges ++ t.ranges⟩

def difference (s t : CharSet) : CharSet :=
  ⟨t.ranges.foldl (fun pieces cut => pieces.flatMap fun r => r.without cut) s.ranges⟩

def intersection (s t : CharSet) : CharSet := s.difference (s.difference t)

def symmetricDifference (s t : CharSet) : CharSet := (s.difference t).union (t.difference s)

/-- Everything up to the greatest number that is not in the set. -/
def complement (greatest : Nat) (s : CharSet) : CharSet := (ofRange 0 greatest).difference s

def lastAscii : Nat := 0x7F
def lastByte : Nat := 0xFF
def lastCodePoint : Nat := 0x10FFFF

def isAscii (s : CharSet) : Bool := s.ranges.all fun r => r.last ≤ lastAscii

def upper : CharRange := ⟨0x41, 0x5A⟩
def lower : CharRange := ⟨0x61, 0x7A⟩

/-- How far a small letter of ASCII lies behind its capital. -/
def caseDistance : Nat := 0x20

/-- The set with the letters of ASCII in both cases. -/
def foldCase (s : CharSet) : CharSet :=
  let small := (s.ranges.filterMap fun r => r.common upper).map fun r =>
    (⟨r.first + caseDistance, r.last + caseDistance⟩ : CharRange)
  let capital := (s.ranges.filterMap fun r => r.common lower).map fun r =>
    (⟨r.first - caseDistance, r.last - caseDistance⟩ : CharRange)
  ⟨s.ranges ++ small ++ capital⟩

/-- The set with its ranges in ascending order, with gaps between them. -/
def normalize (s : CharSet) : CharSet :=
  let ascending := s.ranges.mergeSort fun r t => r.first ≤ t.first
  ⟨(ascending.foldl (fun merged r =>
    match merged with
    | last :: rest =>
      if r.first ≤ last.last + 1 then ⟨last.first, max last.last r.last⟩ :: rest else r :: merged
    | [] => [r]) []).reverse⟩

theorem contains_union (s t : CharSet) (n : Nat) :
    (s.union t).contains n = (s.contains n || t.contains n) := by
  simp [contains, union]

theorem contains_without (r cut : CharRange) (n : Nat) :
    (r.without cut).any (fun p => p.contains n) = (r.contains n && !cut.contains n) := by
  simp only [CharRange.without, CharRange.contains]
  grind

theorem contains_difference (s t : CharSet) (n : Nat) :
    (s.difference t).contains n = (s.contains n && !t.contains n) := by
  obtain ⟨pieces⟩ := s
  obtain ⟨cuts⟩ := t
  simp only [contains, difference]
  induction cuts generalizing pieces with
  | nil => simp
  | cons cut cuts ih =>
    have step : (pieces.flatMap fun r => r.without cut).any (fun p => p.contains n)
        = (pieces.any (fun r => r.contains n) && !cut.contains n) := by
      induction pieces with
      | nil => rfl
      | cons r rest ihr =>
        simp only [List.flatMap_cons, List.any_append, contains_without, ihr, List.any_cons]
        cases r.contains n <;> cases cut.contains n <;> simp
    simp only [List.foldl_cons, ih, step, List.any_cons]
    cases pieces.any (fun r => r.contains n) <;> cases cut.contains n <;> simp

theorem contains_intersection (s t : CharSet) (n : Nat) :
    (s.intersection t).contains n = (s.contains n && t.contains n) := by
  simp only [intersection, contains_difference]
  cases s.contains n <;> simp

end CharSet

end Chip8.Pattern

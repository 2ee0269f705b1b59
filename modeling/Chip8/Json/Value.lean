import Chip8.Json.Number
import Chip8.Json.Text

/-!
# Typed values

Readers for the kinds of values that snapshots and key events are made of: numbers of one or two
bytes, truth values, lists of any length and lists of a fixed one. A value of another kind is read
as far as it takes to name it.
-/

namespace Chip8.Json

/-- The error for a value, beginning here, whose kind was not wanted. -/
def mismatch (wanted : Wanted) (s : List UInt8) : Error :=
  match s with
  | [] => .endOfValue
  | b :: rest =>
    let spelled (letters : String) (found : Found) : Error :=
      match expectLetters (ascii letters) rest with
      | .error e => e
      | .ok _ => .invalidType found wanted
    if b = 0x6E then spelled "ull" .null
    else if b = 0x74 then spelled "rue" (.boolean true)
    else if b = 0x66 then spelled "alse" (.boolean false)
    else if b = Byte.minus ∨ Byte.isDigit b then
      match readNumber (b :: rest) with
      | .error e => e
      | .ok (n, _) => .invalidType n.found wanted
    else if b = Byte.quote then
      match readString rest with
      | .error e => e
      | .ok (text, _) => .invalidType (.string text) wanted
    else if b = Byte.openList then .invalidType .sequence wanted
    else if b = Byte.openObject then .invalidType .map wanted
    else .expectedValue

/-- Reads a whole number from zero to below `bound`. -/
def readNatural (wanted : Wanted) (bound : Nat) (s : List UInt8) : Reading Nat :=
  match skipBlank s with
  | [] => .error .endOfValue
  | b :: rest =>
    if b = Byte.minus ∨ Byte.isDigit b then
      match readNumber (b :: rest) with
      | .error e => .error e
      | .ok (.integer n, after) =>
        if 0 ≤ n ∧ n < bound then .ok (n.toNat, after) else .error (.integerOutOfRange n wanted)
      | .ok (.real bits, _) => .error (.invalidType (.real bits) wanted)
    else .error (mismatch wanted (b :: rest))

def readByte (s : List UInt8) : Reading UInt8 :=
  (readNatural .byte UInt8.size s).map fun (n, rest) => (UInt8.ofNat n, rest)

def readWord (s : List UInt8) : Reading UInt16 :=
  (readNatural .word UInt16.size s).map fun (n, rest) => (UInt16.ofNat n, rest)

def readFlag (s : List UInt8) : Reading Bool :=
  match skipBlank s with
  | [] => .error .endOfValue
  | b :: rest =>
    if b = 0x74 then (expectLetters (ascii "rue") rest).map (true, ·)
    else if b = 0x66 then (expectLetters (ascii "alse") rest).map (false, ·)
    else .error (mismatch .flag (b :: rest))

/-- Requires the opening bracket of a list. -/
def expectList (wanted : Wanted) (s : List UInt8) : Except Error (List UInt8) :=
  match skipBlank s with
  | [] => .error .endOfValue
  | b :: rest =>
    if b = Byte.openList then .ok rest else .error (mismatch wanted (b :: rest))

/-- The items of a list up to its closing bracket, after those already gathered, last one first.
`fuel` bounds their number. -/
def gatherItems {α : Type} (item : List UInt8 → Reading α) :
    (fuel : Nat) → (first : Bool) → (gathered : List α) → List UInt8 → Reading (List α)
  | 0, _, _, _ => .error .endOfList
  | fuel + 1, first, gathered, s =>
    match nextInList first s with
    | .error e => .error e
    | .ok (.close rest) => .ok (gathered.reverse, rest)
    | .ok (.item s) =>
      match item s with
      | .error e => .error e
      | .ok (a, rest) => gatherItems item fuel false (a :: gathered) rest

/-- Reads a list of any length. -/
def readList {α : Type} (fuel : Nat) (item : List UInt8 → Reading α) (s : List UInt8) :
    Reading (List α) :=
  match expectList .sequence s with
  | .error e => .error e
  | .ok s => gatherItems item (fuel + 1) true [] s

/-- `count` items of a list, of which `before` have been read, and its closing bracket. -/
def readItems {α : Type} (item : List UInt8 → Reading α) (wanted : Wanted) (before : Nat) :
    (count : Nat) → List UInt8 → Reading (List α)
  | 0, s => (closeFullList s).map ([], ·)
  | count + 1, s =>
    match nextInList (before = 0) s with
    | .error e => .error e
    | .ok (.close _) => .error (.invalidLength before wanted)
    | .ok (.item s) =>
      match item s with
      | .error e => .error e
      | .ok (a, rest) =>
        (readItems item wanted (before + 1) count rest).map fun (as, rest) => (a :: as, rest)

theorem length_of_readItems {α : Type} {item : List UInt8 → Reading α} {wanted : Wanted}
    {before count : Nat} {s rest : List UInt8} {as : List α}
    (h : readItems item wanted before count s = .ok (as, rest)) : as.length = count := by
  induction count generalizing before s as rest with
  | zero =>
    obtain ⟨_, _, hr⟩ := exists_of_map_eq_ok h
    cases hr
    rfl
  | succ count ih =>
    unfold readItems at h
    repeat' split at h
    · cases h
    · cases h
    · cases h
    · obtain ⟨⟨more, after⟩, hm, hr⟩ := exists_of_map_eq_ok h
      cases hr
      rw [List.length_cons, ih hm]

/-- Reads a list of sixteen items. -/
def readSixteen {α : Type} (item : List UInt8 → Reading α) (s : List UInt8) :
    Reading (Vector α 16) :=
  match expectList .sixteen s with
  | .error e => .error e
  | .ok s =>
    match h : readItems item .sixteen 0 16 s with
    | .error e => .error e
    | .ok (as, rest) => .ok (⟨as.toArray, by simpa using length_of_readItems h⟩, rest)

end Chip8.Json

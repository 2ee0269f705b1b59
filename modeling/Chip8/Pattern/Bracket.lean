import Chip8.Pattern.Escape

/-!
# Brackets

Sets of characters in brackets: characters, ranges, named classes, sets in sets, and operations
between what stands on their left and right.
-/

namespace Chip8.Pattern.Bracket

open Reader

/-- What begins a set: everything up to its first ordinary item. -/
structure Opening where
  span : Span
  negated : Bool
  /-- Where the items begin. -/
  start : Position
  /-- Dashes, or a closing bracket, which are ordinary characters at the beginning. The last item
  is first. -/
  items : List SetTree
  deriving Repr

def letterItem (span : Span) (c : Char) : SetTree := .atom (.letter ⟨span, c, false⟩)

/-- Reads the dashes at the beginning of a set. -/
def readDashes (start : Position) : (most : Nat) → Reader (List SetTree)
  | 0 => return []
  | n + 1 => do
    if (← next?) = some '-' then
      let item := letterItem (← nextSpan) '-'
      advanceBlank
      if (← next?).isNone then fail .unclosedBracket (.point start)
      return (← readDashes start n) ++ [item]
    else return []

def readOpening : Reader Opening := do
  let begin ← position
  advanceBlank
  let c ← require .unclosedBracket begin
  let negated := c = '^'
  if negated then
    advanceBlank
    let _ ← require .unclosedBracket begin
  let start ← position
  let dashes ← readDashes begin (← remaining)
  if dashes.isEmpty && (← next?) = some ']' then
    let item := letterItem (← nextSpan) ']'
    advanceBlank
    let _ ← require .unclosedBracket begin
    return ⟨← spanFrom begin, negated, start, [item]⟩
  else return ⟨← spanFrom begin, negated, start, dashes⟩

/-- The named class at the front of a text, with whether it is negated and its length. -/
def namedSet? : List Char → Option (NamedSet × Bool × Nat)
  | '[' :: ':' :: cs =>
    let (negated, cs) := match cs with
      | '^' :: cs => (true, cs)
      | cs => (false, cs)
    let name := cs.takeWhile (· ≠ ':')
    if [':', ']'].isPrefixOf (cs.drop name.length) then
      (NamedSet.all.lookup (String.ofList name)).map fun set =>
        (set, negated, name.length + if negated then 5 else 4)
    else none
  | _ => none

/-- The operation that a character means if it stands twice. -/
def operation? : Char → Option SetOperation
  | '&' => some .intersection
  | '-' => some .difference
  | '~' => some .symmetricDifference
  | _ => none

/-- Reads a character of a set, or what an escape stands for. -/
def readCharacter : Reader Escape := do
  match ← next? with
  | some '\\' => Escape.read
  | some c =>
    let span ← nextSpan
    advance
    return .atom (.letter ⟨span, c, false⟩)
  | none => fail .unclosedBracket (← nextSpan)

/-- An end of a range. -/
def boundaryOf : Escape → Reader Letter
  | .atom (.letter l) => return l
  | e => fail .rangeBoundary e.span

/-- Reads a range, or what stands alone. A dash in front of a closing bracket or of another dash
makes no range. -/
def readRange (opening : Opening) : Reader SetTree := do
  let first ← readCharacter
  skipBlank
  if (← next?).isNone then fail .unclosedBracket opening.span
  let beyond ← secondBeyondBlank?
  if (← next?) ≠ some '-' || beyond = some ']' || beyond = some '-' then
    match first with
    | .atom a => return .atom a
    | .assertion span _ => fail .notInBracket span
  else
    advanceBlank
    if (← next?).isNone then fail .unclosedBracket opening.span
    let last ← readCharacter
    let span : Span := ⟨first.span.start, last.span.stop⟩
    let a ← boundaryOf first
    let b ← boundaryOf last
    if b.char < a.char then fail .rangeOrder span
    return .range span a b

/-- What stands in front of the next operation, together with the operation before it. -/
def combine (left : Option (SetOperation × SetTree)) (right : SetTree) : SetTree :=
  match left with
  | some (op, left) => .operation ⟨left.span.start, right.span.stop⟩ op left right
  | none => right

/-- Reads the rest of a set: after the operation and what stands in front of it, if there is one,
and after the given items, of which the last is first. -/
def readRest (opening : Opening) : (fuel : Nat) → (left : Option (SetOperation × SetTree)) →
    (start : Position) → (items : List SetTree) → Reader SetTree
  | 0, _, _, _ => fail .unclosedBracket opening.span
  | fuel + 1, left, start, items => do
    skipBlank
    let before := combine left (SetTree.ofItems start items.reverse)
    match ← next? with
    | none => fail .unclosedBracket opening.span
    | some ']' =>
      advance
      return .bracket (← spanFrom opening.span.start) opening.negated before
    | some '[' =>
      match namedSet? (← get).rest with
      | some (set, negated, length) =>
        let begin ← position
        advanceBy length
        readRest opening fuel left start (.named (← spanFrom begin) set negated :: items)
      | none =>
        let inner ← readOpening
        let item ← readRest inner fuel none inner.start inner.items
        readRest opening fuel left start (item :: items)
    | some c =>
      let doubled := (← second?) = some c
      match if doubled then operation? c else none with
      | some op =>
        advanceBy 2
        readRest opening fuel (some (op, before)) (← position) []
      | none =>
        let item ← readRange opening
        readRest opening fuel left start (item :: items)

/-- Reads a set, from its opening bracket on. -/
def read : Reader SetTree := do
  let fuel ← remaining
  let opening ← readOpening
  readRest opening (fuel + 1) none opening.start opening.items

end Chip8.Pattern.Bracket

import Chip8.Pattern.Bracket
import Chip8.Pattern.Group
import Chip8.Pattern.Repetition

/-!
# Reading patterns

The tree of a pattern. A pattern is a list of alternatives, an alternative a list of items with
their repetitions, and an item a character, a set, an assertion or a group, which holds a pattern.
-/

namespace Chip8.Pattern.Tree

open Reader

/-- Reads what stands outside of brackets and is neither a group nor a repetition. -/
def readItem (c : Char) : Reader Tree := do
  if c = '\\' then
    match ← Escape.read with
    | .atom a => return .atom a
    | .assertion _ a => return .assertion a
  else
    let span ← nextSpan
    advance
    match c with
    | '.' => return .dot span
    | '^' => return .assertion .lineStart
    | '$' => return .assertion .lineEnd
    | _ => return .atom (.letter ⟨span, c, false⟩)

/-- The alternatives that are complete, the last one first, and where the first one begins. -/
structure Branches where
  start : Position
  trees : List Tree
  deriving Repr

/-- Whether an item can be repeated. -/
def canRepeat : Tree → Bool
  | empty | flags _ => false
  | _ => true

def setSpacious (spacious : Bool) : Reader Unit := modify fun s => { s with spacious }

/-- Reads a pattern up to its end or to a closing parenthesis. What has been read is the
alternatives so far, and of the last one, which begins at `start`, the items with their places, the
last item first. -/
def readRest : (fuel : Nat) → Branches → (start : Position) → (items : List (Position × Tree)) →
    Reader Tree
  | 0, _, start, _ => fail .unclosedGroup (.point start)
  | fuel + 1, branches, start, items => do
    skipBlank
    let here ← position
    let alternative := ofItems ⟨start, here⟩ (items.reverse.map Prod.snd)
    match ← next? with
    | none | some ')' =>
      if branches.trees.isEmpty then return alternative
      else return alternation ⟨branches.start, here⟩ (alternative :: branches.trees).reverse
    | some '|' =>
      advance
      let first := if branches.trees.isEmpty then start else branches.start
      readRest fuel ⟨first, alternative :: branches.trees⟩ (← position) []
    | some '(' =>
      let outer := (← get).spacious
      match ← GroupHead.read with
      | .flags changes =>
        setSpacious (changes.apply .spacious outer)
        readRest fuel branches start ((here, flags changes) :: items)
      | .group span captures changes =>
        setSpacious (changes.apply .spacious outer)
        let begin ← position
        let inner ← readRest fuel ⟨begin, []⟩ begin []
        if (← next?).isNone then fail .unclosedGroup span
        setSpacious outer
        advance
        let item := group (← spanFrom here) captures changes inner
        readRest fuel branches start ((here, item) :: items)
    | some '[' =>
      let item ← Bracket.read
      readRest fuel branches start ((here, set item) :: items)
    | some c =>
      if c = '\x7b' || (Repetition.ofMark? c).isSome then
        match items with
        | (begin, item) :: items =>
          unless item.canRepeat do fail .nothingToRepeat (.point here)
          match ← Repetition.read? with
          | some r =>
            let item := repetition (← spanFrom begin) r.least r.most item
            readRest fuel branches start ((begin, item) :: items)
          | none => fail .nothingToRepeat (.point here)
        | [] => fail .nothingToRepeat (.point here)
      else
        let item ← readItem c
        readRest fuel branches start ((here, item) :: items)

/-- Reads a whole pattern. -/
def readAll : Reader Tree := do
  let tree ← readRest ((← remaining) + 1) ⟨.start, []⟩ .start []
  if (← next?).isSome then fail .unopenedGroup (← nextSpan)
  return tree

/-- The tree of a pattern. -/
def read (pattern : String) : Except Error Tree := do
  let (tree, _) ← readAll.run (.start pattern)
  tree.checkDepth 0
  return tree

end Chip8.Pattern.Tree

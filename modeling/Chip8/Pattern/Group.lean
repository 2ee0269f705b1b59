import Chip8.Pattern.Scan
import Chip8.Pattern.Tree
import Chip8.Text.Letter

/-!
# The beginnings of groups

What stands behind an opening parenthesis: nothing, a name, or flags, which may also stand in
parentheses of their own.
-/

namespace Chip8.Pattern

/-- What an opening parenthesis begins. -/
inductive GroupHead
  /-- Flags for what follows in the group around, already closed. -/
  | flags (changes : FlagChanges)
  /-- A group, with the part of the pattern that is its parenthesis. -/
  | group (span : Span) (captures : Bool) (changes : FlagChanges)
  deriving DecidableEq, Repr

namespace GroupHead

open Reader

/-- Fails for something that was there before. -/
def failRepeated {α : Type} (problem : Problem) (span earlier : Span) : Reader α :=
  throw ⟨problem, span, some earlier⟩

/-! ## Names -/

/-- Whether a name may hold a character. -/
def isNameCharacter (first : Bool) (c : Char) : Bool :=
  if first then c = '_' || Text.isLetter c
  else c = '_' || c = '.' || c = '[' || c = ']' || Text.isLetterOrNumber c

/-- Reads the characters of a name up to the closing angle bracket. -/
def readNameCharacters (first : Bool) : (most : Nat) → Reader (List Char)
  | 0 => return []
  | n + 1 => do
    let c ← requireHere .unclosedName
    if c = '>' then return []
    unless isNameCharacter first c do fail .nameCharacter (← nextSpan)
    advance
    return c :: (← readNameCharacters false n)

/-- Reads the name of a group, which no other group has. -/
def readName : Reader Unit := do
  let start ← position
  let name ← readNameCharacters true ((← remaining) + 1)
  let span ← spanFrom start
  advance
  if name.isEmpty then fail .emptyName (.point start)
  let name := String.ofList name
  match (← get).names.lookup name with
  | some earlier => failRepeated .repeatedName span earlier
  | none => modify fun s => { s with names := (name, span) :: s.names }

/-! ## Flags -/

/-- An item of a list of flags; none for the minus sign. -/
abbrev FlagItem := Option Flag

/-- Reads an item of a list of flags. -/
def readFlagItem : Reader FlagItem := do
  match ← next? with
  | some '-' => return none
  | c =>
    match c.bind Flag.ofLetter? with
    | some f => return some f
    | none => fail .unknownFlag (← nextSpan)

/-- Reads a list of flags up to what closes it. No item stands there twice, and the minus sign not
at the end. The last item is first in `seen`. -/
def readFlagItems : (fuel : Nat) → (seen : List (FlagItem × Span)) →
    Reader (List (FlagItem × Span))
  | 0, seen => return seen.reverse
  | fuel + 1, seen => do
    let c ← next?
    if c = some ':' || c = some ')' then
      match seen with
      | (none, span) :: _ => fail .danglingNegation span
      | _ => return seen.reverse
    else
      let item ← readFlagItem
      let span ← nextSpan
      match seen.lookup item with
      | some earlier =>
        failRepeated (if item.isNone then .repeatedNegation else .repeatedFlag) span earlier
      | none =>
        advance
        let _ ← requireHere .flagsEnd
        readFlagItems fuel ((item, span) :: seen)

def changesOf (items : List FlagItem) : FlagChanges :=
  ⟨(items.takeWhile Option.isSome).filterMap id, (items.dropWhile Option.isSome).filterMap id⟩

/-! ## Parentheses -/

/-- Reads what an opening parenthesis begins. Empty flags are a question mark that repeats
nothing. -/
def read : Reader GroupHead := do
  let parenthesis ← nextSpan
  advance
  skipBlank
  for look in ["?=", "?!", "?<=", "?<!"] do
    if ← take? look then fail .lookAround (← spanFrom parenthesis.start)
  let inner ← position
  let named ← if ← take? "?P<" then pure true else take? "?<"
  if named then
    readName
    return .group parenthesis true .none
  else if ← take? "?" then
    if (← next?).isNone then fail .unclosedGroup parenthesis
    let items ← readFlagItems ((← remaining) + 1) []
    let closed := (← next?) = some ')'
    advance
    let changes := changesOf (items.map Prod.fst)
    if closed then
      if items.isEmpty then fail .nothingToRepeat (.point inner)
      return .flags changes
    else return .group parenthesis false changes
  else return .group parenthesis true .none

end GroupHead

end Chip8.Pattern

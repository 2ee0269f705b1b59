import Chip8.Pattern.Error
import Chip8.Pattern.Expression

/-!
# Pattern trees

Patterns as they are written: every part with its place in the pattern, before flags have been taken
into account.
-/

namespace Chip8.Pattern

inductive Flag
  | ignoreCase
  | manyLines
  | dotTakesLineEnds
  | swapGreed
  | unicode
  | carriageReturns
  /-- Blanks and comments mean nothing. -/
  | spacious
  deriving DecidableEq, Repr

def Flag.ofLetter? : Char → Option Flag
  | 'i' => some ignoreCase
  | 'm' => some manyLines
  | 's' => some dotTakesLineEnds
  | 'U' => some swapGreed
  | 'u' => some unicode
  | 'R' => some carriageReturns
  | 'x' => some spacious
  | _ => none

/-- What a list of flags says: some flags are set, and those behind a minus sign are cleared. -/
structure FlagChanges where
  set : List Flag
  cleared : List Flag
  deriving DecidableEq, Repr

namespace FlagChanges

def none : FlagChanges := ⟨[], []⟩

/-- The state of a flag after the changes. -/
def apply (changes : FlagChanges) (f : Flag) (before : Bool) : Bool :=
  if f ∈ changes.set then true else if f ∈ changes.cleared then false else before

end FlagChanges

/-- A character that stands for itself. -/
structure Letter where
  span : Span
  char : Char
  /-- Whether it is written as the two digits of a byte. -/
  asByte : Bool
  deriving DecidableEq, Repr

/-- Classes of characters that have an escape of their own. -/
inductive Shorthand
  | digit
  | space
  | word
  deriving DecidableEq, Repr

/-- Classes of ASCII characters that are named inside brackets. -/
inductive NamedSet
  | alnum | alpha | ascii | blank | cntrl | digit | graph | lower | print | punct | space | upper
  | word | xdigit
  deriving DecidableEq, Repr

namespace NamedSet

def all : List (String × NamedSet) :=
  [("alnum", alnum), ("alpha", alpha), ("ascii", ascii), ("blank", blank), ("cntrl", cntrl),
   ("digit", digit), ("graph", graph), ("lower", lower), ("print", print), ("punct", punct),
   ("space", space), ("upper", upper), ("word", word), ("xdigit", xdigit)]

def chars : NamedSet → CharSet
  | alnum => ⟨[⟨0x30, 0x39⟩, ⟨0x41, 0x5A⟩, ⟨0x61, 0x7A⟩]⟩
  | alpha => ⟨[⟨0x41, 0x5A⟩, ⟨0x61, 0x7A⟩]⟩
  | ascii => .ofRange 0 CharSet.lastAscii
  | blank => .ofText "\t "
  | cntrl => ⟨[⟨0, 0x1F⟩, ⟨0x7F, 0x7F⟩]⟩
  | digit => .ofRange 0x30 0x39
  | graph => .ofRange 0x21 0x7E
  | lower => .ofRange 0x61 0x7A
  | print => .ofRange 0x20 0x7E
  | punct => ⟨[⟨0x21, 0x2F⟩, ⟨0x3A, 0x40⟩, ⟨0x5B, 0x60⟩, ⟨0x7B, 0x7E⟩]⟩
  | space => ⟨[⟨0x09, 0x0D⟩, ⟨0x20, 0x20⟩]⟩
  | upper => .ofRange 0x41 0x5A
  | word => wordLetters
  | xdigit => ⟨[⟨0x30, 0x39⟩, ⟨0x41, 0x46⟩, ⟨0x61, 0x66⟩]⟩

end NamedSet

def Shorthand.chars : Shorthand → CharSet
  | digit => NamedSet.digit.chars
  | space => NamedSet.space.chars
  | word => NamedSet.word.chars

/-- What stands for a set of characters inside and outside of brackets. -/
inductive Atom
  | letter (l : Letter)
  | shorthand (span : Span) (kind : Shorthand) (negated : Bool)
  /-- A property of Unicode. Its name may be one that is looked up among the categories only. -/
  | property (span : Span) (isCategory : Bool)
  deriving DecidableEq, Repr

def Atom.span : Atom → Span
  | letter l => l.span
  | shorthand span .. => span
  | property span _ => span

inductive Assertion
  | textStart
  | textEnd
  | lineStart
  | lineEnd
  | word (b : Boundary)
  deriving DecidableEq, Repr

inductive SetOperation
  | intersection
  | difference
  | symmetricDifference
  deriving DecidableEq, Repr

def SetOperation.apply : SetOperation → CharSet → CharSet → CharSet
  | intersection => CharSet.intersection
  | difference => CharSet.difference
  | symmetricDifference => CharSet.symmetricDifference

/-- What stands in brackets. -/
inductive SetTree
  | atom (a : Atom)
  | range (span : Span) (first last : Letter)
  | named (span : Span) (set : NamedSet) (negated : Bool)
  | bracket (span : Span) (negated : Bool) (set : SetTree)
  | union (span : Span) (items : List SetTree)
  | operation (span : Span) (op : SetOperation) (left right : SetTree)
  deriving Repr

def SetTree.span : SetTree → Span
  | atom a => a.span
  | range span .. => span
  | named span .. => span
  | bracket span .. => span
  | union span _ => span
  | operation span .. => span

/-- The union of items, of which a single one is not nested. -/
def SetTree.ofItems (start : Position) (items : List SetTree) : SetTree :=
  match items with
  | [item] => item
  | _ =>
    let span :=
      match items.head?, items.getLast? with
      | some first, some last => ⟨first.span.start, last.span.stop⟩
      | _, _ => .point start
    .union span items

inductive Tree
  | empty
  /-- Flags for the rest of the group. -/
  | flags (changes : FlagChanges)
  | atom (a : Atom)
  | dot (span : Span)
  | assertion (a : Assertion)
  | set (s : SetTree)
  | repetition (span : Span) (least : Nat) (most : Option Nat) (t : Tree)
  | group (span : Span) (captures : Bool) (changes : FlagChanges) (t : Tree)
  | sequence (span : Span) (items : List Tree)
  | alternation (span : Span) (branches : List Tree)
  deriving Repr

namespace Tree

/-- What follows one another, of which a single item is not nested. -/
def ofItems (span : Span) : List Tree → Tree
  | [] => empty
  | [item] => item
  | items => sequence span items

end Tree

/-- Goes one level deeper into a part, if that is allowed. -/
def nest (depth : Nat) (span : Span) : Except Error Nat :=
  if depth < deepest then .ok (depth + 1) else .error ⟨.tooDeep, span, none⟩

mutual

/-- Checks that no part is nested too deeply. -/
def SetTree.checkDepth (depth : Nat) : SetTree → Except Error Unit
  | .atom _ | .range .. | .named .. => .ok ()
  | .bracket span _ set => do set.checkDepth (← nest depth span)
  | .union span items =>
    if items.isEmpty then .ok () else do SetTree.checkDepths (← nest depth span) items
  | .operation span _ left right => do
    let depth ← nest depth span
    left.checkDepth depth
    right.checkDepth depth

def SetTree.checkDepths (depth : Nat) : List SetTree → Except Error Unit
  | [] => .ok ()
  | item :: items => do
    item.checkDepth depth
    SetTree.checkDepths depth items

end

mutual

/-- Checks that no part is nested too deeply. -/
def Tree.checkDepth (depth : Nat) : Tree → Except Error Unit
  | .empty | .flags _ | .atom _ | .dot _ | .assertion _ => .ok ()
  | .set s => s.checkDepth depth
  | .repetition span _ _ t => do t.checkDepth (← nest depth span)
  | .group span _ _ t => do t.checkDepth (← nest depth span)
  | .sequence span items => do Tree.checkDepths (← nest depth span) items
  | .alternation span branches => do Tree.checkDepths (← nest depth span) branches

def Tree.checkDepths (depth : Nat) : List Tree → Except Error Unit
  | [] => .ok ()
  | t :: ts => do
    t.checkDepth depth
    Tree.checkDepths depth ts

end

end Chip8.Pattern

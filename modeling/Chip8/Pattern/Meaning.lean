import Chip8.Pattern.Tree

/-!
# The meaning of patterns

The expression that a tree stands for under flags. Only ASCII has tables of classes and of cases, so
what would need one for all of Unicode is refused. With the flag `u` off, classes are sets of bytes,
and those that take a byte past ASCII are refused, since such a byte is only a part of a character.
-/

namespace Chip8.Pattern

structure Flags where
  ignoreCase : Bool
  manyLines : Bool
  dotTakesLineEnds : Bool
  unicode : Bool
  carriageReturns : Bool
  deriving DecidableEq, Repr

namespace Flags

def start : Flags where
  ignoreCase := false
  manyLines := false
  dotTakesLineEnds := false
  unicode := true
  carriageReturns := false

def change (f : Flags) (changes : FlagChanges) : Flags where
  ignoreCase := changes.apply .ignoreCase f.ignoreCase
  manyLines := changes.apply .manyLines f.manyLines
  dotTakesLineEnds := changes.apply .dotTakesLineEnds f.dotTakesLineEnds
  unicode := changes.apply .unicode f.unicode
  carriageReturns := changes.apply .carriageReturns f.carriageReturns

/-- The greatest number in a set. -/
def greatest (f : Flags) : Nat :=
  if f.unicode then CharSet.lastCodePoint else CharSet.lastByte

end Flags

def refuse {α : Type} (problem : Problem) (span : Span) : Except Error α :=
  .error ⟨problem, span, none⟩

/-! ## Sets -/

/-- Refuses a set of bytes past ASCII. -/
def requireWhole (f : Flags) (span : Span) (s : CharSet) : Except Error CharSet :=
  if f.unicode ∨ s.isAscii then .ok s else refuse .brokenEncoding span

/-- A set with both cases of its letters, if case is ignored. A set that is not made of letters,
but of sets that have been through this, needs no table. -/
def foldCase (f : Flags) (span : Span) (ofLetters : Bool) (s : CharSet) : Except Error CharSet :=
  if ¬ f.ignoreCase then .ok s
  else if ¬ f.unicode then .ok s.foldCase
  else if ofLetters then refuse .caseTables span
  else .ok s

/-- A set in brackets, which may be negated. -/
def bracketed (f : Flags) (span : Span) (negated ofLetters : Bool) (s : CharSet) :
    Except Error CharSet := do
  let s ← foldCase f span ofLetters s
  requireWhole f span (if negated then s.complement f.greatest else s)

/-- The number of a character that is written in a pattern, which may be a byte. -/
def Letter.code (f : Flags) (l : Letter) : Except Error Nat :=
  if ¬ f.unicode ∧ l.asByte ∧ CharSet.lastAscii < l.char.toNat then refuse .brokenEncoding l.span
  else .ok l.char.toNat

/-- The number of a character in a set. A set of bytes has room for ASCII only. -/
def Letter.member (f : Flags) (l : Letter) : Except Error Nat := do
  let n ← l.code f
  if f.unicode ∨ n ≤ CharSet.lastAscii then return n else refuse .unicodeInBytes l.span

def shorthandChars (f : Flags) (span : Span) (kind : Shorthand) (negated : Bool) :
    Except Error CharSet :=
  if f.unicode then refuse .wordTables span
  else requireWhole f span (if negated then kind.chars.complement f.greatest else kind.chars)

/-- No property is known. -/
def refuseProperty {α : Type} (f : Flags) (span : Span) (isCategory : Bool) : Except Error α :=
  if ¬ f.unicode then refuse .unicodeInBytes span
  else refuse (if isCategory then .unknownPropertyValue else .unknownProperty) span

mutual

/-- Whether a set has letters or ranges of its own, outside of sets in it. -/
def SetTree.ofLetters : SetTree → Bool
  | .atom (.letter _) | .range .. => true
  | .union _ items => SetTree.anyOfLetters items
  | _ => false

def SetTree.anyOfLetters : List SetTree → Bool
  | [] => false
  | item :: items => item.ofLetters || SetTree.anyOfLetters items

end

mutual

def SetTree.chars (f : Flags) : SetTree → Except Error CharSet
  | .atom (.letter l) => return .single (← l.member f)
  | .atom (.shorthand span kind negated) => shorthandChars f span kind negated
  | .atom (.property span isCategory) => refuseProperty f span isCategory
  | .range _ first last => return .ofRange (← first.member f) (← last.member f)
  | .named span set negated => bracketed f span negated true set.chars
  | .bracket span negated set => do bracketed f span negated set.ofLetters (← set.chars f)
  | .union _ items => SetTree.charsOfAll f items
  | .operation _ op left right => do
    let a ← left.chars f
    let b ← right.chars f
    let b ← foldCase f right.span right.ofLetters b
    let a ← foldCase f left.span left.ofLetters a
    return op.apply a b

def SetTree.charsOfAll (f : Flags) : List SetTree → Except Error CharSet
  | [] => .ok .empty
  | item :: items => do
    let s ← item.chars f
    let t ← SetTree.charsOfAll f items
    return s.union t

end

/-! ## Expressions -/

def Atom.expression (f : Flags) : Atom → Except Error Expression
  | letter l => do
    let s := CharSet.single (← l.code f)
    return .set (← foldCase f l.span true s)
  | shorthand span kind negated => do
    return .set (← shorthandChars f span kind negated)
  | property span isCategory => refuseProperty f span isCategory

def dotExpression (f : Flags) (span : Span) : Except Error Expression :=
  if ¬ f.unicode then refuse .brokenEncoding span
  else
    let lineEnds := if f.dotTakesLineEnds then CharSet.empty
      else .ofText (if f.carriageReturns then "\r\n" else "\n")
    .ok (.set (lineEnds.complement f.greatest))

def Assertion.look (f : Flags) : Assertion → Look
  | textStart => .textStart
  | textEnd => .textEnd
  | lineStart => if ¬ f.manyLines then .textStart else if f.carriageReturns then .crlfStart
    else .lineStart
  | lineEnd => if ¬ f.manyLines then .textEnd else if f.carriageReturns then .crlfEnd else .lineEnd
  | word b => if f.unicode then .anyWord b else .word b

mutual

/-- The expression that a tree stands for, and the flags behind it. -/
def Tree.expression (f : Flags) : Tree → Except Error (Expression × Flags)
  | .empty => .ok (.empty, f)
  | .flags changes => .ok (.empty, f.change changes)
  | .atom a => do return (← a.expression f, f)
  | .dot span => do return (← dotExpression f span, f)
  | .assertion a => .ok (.look (a.look f), f)
  | .set s => do return (.set (← s.chars f), f)
  | .repetition _ least most t => do
    let (e, _) ← t.expression f
    if most = some 0 then return (.empty, f)
    else return (.repeated least (most.map (· - least)) e, f)
  | .group _ captures changes t => do
    let (e, _) ← t.expression (f.change changes)
    return (if captures then .captured e else e, f)
  | .sequence _ items => Tree.expressionOfItems f items
  | .alternation _ branches => do
    let (es, f) ← Tree.expressions f branches
    return (.oneOf es, f)

def Tree.expressionOfItems (f : Flags) : List Tree → Except Error (Expression × Flags)
  | [] => .ok (.empty, f)
  | t :: ts => do
    let (a, f) ← t.expression f
    let (b, f) ← Tree.expressionOfItems f ts
    return (.followed a b, f)

def Tree.expressions (f : Flags) : List Tree → Except Error (List Expression × Flags)
  | [] => .ok ([], f)
  | t :: ts => do
    let (e, f) ← t.expression f
    let (es, f) ← Tree.expressions f ts
    return (e :: es, f)

end

end Chip8.Pattern

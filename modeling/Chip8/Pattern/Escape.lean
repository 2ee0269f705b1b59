import Chip8.Pattern.Scan
import Chip8.Pattern.Tree

/-!
# Escapes

What a backslash begins: a character that would otherwise mean something, a character by its number
or name, a class of characters, or an assertion.
-/

namespace Chip8.Pattern

inductive Escape
  | atom (a : Atom)
  | assertion (span : Span) (a : Assertion)
  deriving DecidableEq, Repr

def Escape.span : Escape → Span
  | atom a => a.span
  | assertion span _ => span

namespace Escape

open Reader

/-- Whether a character stands for itself behind a backslash. -/
def isPlain (c : Char) : Bool :=
  c.toNat ≤ CharSet.lastAscii && !c.isAlphanum && c ≠ '<' && c ≠ '>'

/-- The control characters that letters stand for. -/
def controls : List (Char × Char) :=
  [('a', '\x07'), ('f', '\x0C'), ('t', '\t'), ('n', '\n'), ('r', '\r'), ('v', '\x0B')]

/-- The assertions that letters and angle brackets stand for. -/
def assertions : List (Char × Assertion) :=
  [('A', .textStart), ('z', .textEnd), ('b', .word .edge), ('B', .word .noEdge),
   ('<', .word .start), ('>', .word .stop)]

/-- The classes that letters stand for. A capital means the characters outside of the class. -/
def shorthands : List (Char × Shorthand × Bool) :=
  [('d', .digit, false), ('s', .space, false), ('w', .word, false),
   ('D', .digit, true), ('S', .space, true), ('W', .word, true)]

/-- Word boundaries by their names. -/
def boundaries : List (String × Boundary) :=
  [("start", .start), ("end", .stop), ("start-half", .startHalf), ("end-half", .stopHalf)]

/-! ## Numbers -/

def isHexDigit (c : Char) : Bool :=
  c.isDigit || ('A' ≤ c && c ≤ 'F') || ('a' ≤ c && c ≤ 'f')

def hexDigitValue (c : Char) : Nat :=
  if c.isDigit then c.toNat - '0'.toNat else c.toUpper.toNat - 'A'.toNat + 10

/-- The character with a number, if there is one. -/
def charOfDigits (digits : List Char) : Option Char :=
  let n := digits.foldl (fun n c => n * 16 + hexDigitValue c) 0
  if n.isValidChar then some (Char.ofNat n) else none

def requireHexDigit (c : Char) : Reader Unit := do
  unless isHexDigit c do fail .hexDigit (← nextSpan)

def readDigits : (count : Nat) → Reader (List Char)
  | 0 => return []
  | n + 1 => do
    let c ← requireHere .escapeEnd
    requireHexDigit c
    advanceBlank
    return c :: (← readDigits n)

/-- Goes from an opening brace to the closing one over characters that pass a check. What is wrong
if there is no closing brace begins at `start`, or where the pattern ends. -/
def readBraced (start : Option Position) (check : Char → Reader Unit) :
    (most : Nat) → Reader (List Char)
  | 0 => return []
  | n + 1 => do
    advanceBlank
    match ← next? with
    | none => fail .escapeEnd (← spanFrom (start.getD (← position)))
    | some '\x7d' => return []
    | some c =>
      check c
      return c :: (← readBraced start check n)

/-- Reads the number of a character, from its first digit or its opening brace on. -/
def readNumber (count : Nat) : Reader Char := do
  let start ← position
  if (← next?) = some '\x7b' then
    let inner := (← nextSpan).stop
    let digits ← readBraced (some start) requireHexDigit (← remaining)
    let stop ← position
    advanceBlank
    if digits.isEmpty then fail .emptyHex (← spanFrom start)
    match charOfDigits digits with
    | some c => return c
    | none => fail .noScalar ⟨inner, stop⟩
  else
    match charOfDigits (← readDigits count) with
    | some c => return c
    | none => fail .noScalar (← spanFrom start)

/-! ## Properties -/

/-- Whether a property's name is looked up among the general categories alone. Case, spaces, dashes,
underscores and a leading `is` do not matter. -/
def namesCategory (name : List Char) : Bool :=
  let name := name.map Char.toLower
  let name := match name with
    | 'i' :: 's' :: rest => rest
    | name => name
  let kept := name.filter fun c =>
    c.toNat ≤ CharSet.lastAscii && c ≠ ' ' && c ≠ '_' && c ≠ '-'
  ["cf", "sc", "lc"].contains (String.ofList kept)

/-- Reads a property's name. Tells whether it is one of a category. -/
def readProperty : Reader Bool := do
  let c ← requireHere .escapeEnd
  if c = '\x7b' then
    let name ← readBraced none (fun _ => return) (← remaining)
    advance
    return !name.contains ':' && !name.contains '=' && namesCategory name
  else if c = '\\' then fail .propertyName (← nextSpan)
  else
    advanceBlank
    return false

/-! ## Word boundaries -/

/-- The boundary that is named in braces behind a `b`. Braces around anything but a name belong to
a count of repetitions. -/
def readBoundary? (start : Position) : Reader (Option Boundary) := do
  let before ← get
  advanceBlank
  let c ← require .boundaryEnd start
  let inner ← position
  let isNameLetter (c : Char) : Bool := c.isAlpha || c = '-'
  if isNameLetter c then
    let name ← takeWhile isNameLetter advanceBlank (← remaining)
    unless (← next?) = some '\x7d' do fail .unclosedBoundary (← spanFrom before.position)
    let span ← spanFrom inner
    advance
    match boundaries.lookup (String.ofList name) with
    | some b => return some b
    | none => fail .unknownBoundary span
  else
    set before
    return none

/-- Reads an escape, from its backslash on. -/
def read : Reader Escape := do
  let start ← position
  advance
  let c ← require .escapeEnd start
  if c.isDigit then fail .backreference ⟨start, (← nextSpan).stop⟩
  else if c = 'x' || c = 'u' || c = 'U' then
    advanceBlank
    let opening ← requireHere .escapeEnd
    let char ← readNumber (if c = 'x' then 2 else if c = 'u' then 4 else 8)
    return .atom (.letter ⟨← spanFrom start, char, c = 'x' && opening ≠ '\x7b'⟩)
  else if c = 'p' || c = 'P' then
    advanceBlank
    let isCategory ← readProperty
    return .atom (.property (← spanFrom start) isCategory)
  else
    advance
    let span ← spanFrom start
    match shorthands.lookup c, controls.lookup c, assertions.lookup c with
    | some (kind, negated), _, _ => return .atom (.shorthand span kind negated)
    | _, some control, _ => return .atom (.letter ⟨span, control, false⟩)
    | _, _, some a =>
      if c = 'b' && (← next?) = some '\x7b' then
        match ← readBoundary? start with
        | some b => return .assertion (← spanFrom start) (.word b)
        | none => return .assertion span a
      else return .assertion span a
    | none, none, none =>
      if isPlain c then return .atom (.letter ⟨span, c, false⟩)
      else fail .unknownEscape span

end Escape

end Chip8.Pattern

/-!
# Pattern errors

What can be wrong with a pattern and where, and the report that marks the place for whoever wrote
the pattern.
-/

namespace Chip8.Pattern

/-- A place in front of a character of a pattern, or at its end. Lines and columns count from
one. -/
structure Position where
  line : Nat
  column : Nat
  deriving DecidableEq, Repr

namespace Position

def start : Position := ⟨1, 1⟩

/-- The place behind a character. -/
def after (p : Position) (c : Char) : Position :=
  if c = '\n' then ⟨p.line + 1, 1⟩ else ⟨p.line, p.column + 1⟩

def le (p q : Position) : Bool := p.line < q.line || (p.line = q.line && p.column ≤ q.column)

end Position

/-- A part of a pattern, from one place to another. -/
structure Span where
  start : Position
  stop : Position
  deriving DecidableEq, Repr

namespace Span

/-- The part at a place that holds nothing. -/
def point (p : Position) : Span := ⟨p, p⟩

def oneLine (s : Span) : Bool := s.start.line = s.stop.line

end Span

/-- How deeply the parts of a pattern may be nested. -/
def deepest : Nat := 250

inductive Problem
  | unclosedBracket
  | notInBracket
  | rangeBoundary
  | rangeOrder
  | unclosedGroup
  | unopenedGroup
  | tooDeep
  | emptyName
  | nameCharacter
  | unclosedName
  | repeatedName
  | flagsEnd
  | unknownFlag
  | repeatedFlag
  | repeatedNegation
  | danglingNegation
  | nothingToRepeat
  | unclosedCount
  | emptyCount
  | largeCount
  | countOrder
  | escapeEnd
  | unknownEscape
  | hexDigit
  | emptyHex
  | noScalar
  | propertyName
  | backreference
  | lookAround
  | unclosedBoundary
  | unknownBoundary
  | boundaryEnd
  | caseTables
  | wordTables
  | unknownProperty
  | unknownPropertyValue
  | unicodeInBytes
  | brokenEncoding
  deriving DecidableEq, Repr

def Problem.text : Problem → String
  | unclosedBracket => "unclosed character class"
  | notInBracket => "invalid escape sequence found in character class"
  | rangeBoundary => "invalid range boundary, must be a literal"
  | rangeOrder => "invalid character class range, the start must be <= the end"
  | unclosedGroup => "unclosed group"
  | unopenedGroup => "unopened group"
  | tooDeep => "exceed the maximum number of nested parentheses/brackets (" ++ deepest.repr ++ ")"
  | emptyName => "empty capture group name"
  | nameCharacter => "invalid capture group character"
  | unclosedName => "unclosed capture group name"
  | repeatedName => "duplicate capture group name"
  | flagsEnd => "expected flag but got end of regex"
  | unknownFlag => "unrecognized flag"
  | repeatedFlag => "duplicate flag"
  | repeatedNegation => "flag negation operator repeated"
  | danglingNegation => "dangling flag negation operator"
  | nothingToRepeat => "repetition operator missing expression"
  | unclosedCount => "unclosed counted repetition"
  | emptyCount => "repetition quantifier expects a valid decimal"
  | largeCount => "decimal literal invalid"
  | countOrder => "invalid repetition count range, the start must be <= the end"
  | escapeEnd => "incomplete escape sequence, reached end of pattern prematurely"
  | unknownEscape => "unrecognized escape sequence"
  | hexDigit => "invalid hexadecimal digit"
  | emptyHex => "hexadecimal literal empty"
  | noScalar => "hexadecimal literal is not a Unicode scalar value"
  | propertyName => "invalid Unicode character class"
  | backreference => "backreferences are not supported"
  | lookAround => "look-around, including look-ahead and look-behind, is not supported"
  | unclosedBoundary =>
    "special word boundary assertion is either unclosed or contains an invalid character"
  | unknownBoundary =>
    "unrecognized special word boundary assertion, valid choices are: start, end, start-half "
      ++ "or end-half"
  | boundaryEnd =>
    "found either the beginning of a special word boundary or a bounded repetition on a \\b with "
      ++ "an opening brace, but no closing brace"
  | caseTables =>
    "Unicode-aware case insensitivity matching is not available (make sure the unicode-case "
      ++ "feature is enabled)"
  | wordTables =>
    "Unicode-aware Perl class not found (make sure the unicode-perl feature is enabled)"
  | unknownProperty => "Unicode property not found"
  | unknownPropertyValue => "Unicode property value not found"
  | unicodeInBytes => "Unicode not allowed here"
  | brokenEncoding => "pattern can match invalid UTF-8"

structure Error where
  problem : Problem
  span : Span
  /-- Where what is repeated came first. -/
  earlier : Option Span
  deriving DecidableEq, Repr

namespace Error

def spaces (n : Nat) : String := String.ofList (List.replicate n ' ')

/-- Carets under the given parts of a line, at least one for each. -/
def carets (spans : List Span) : String :=
  (spans.foldl (fun (text, column) s =>
    let gap := s.start.column - column
    let length := max 1 (s.stop.column - s.start.column)
    (text ++ spaces gap ++ String.ofList (List.replicate length '^'), column + gap + length))
    ("", 1)).1

/-- The parts that are at fault, in the order of the pattern. -/
def spans (e : Error) : List Span :=
  (e.span :: e.earlier.toList).mergeSort fun a b =>
    if a.start = b.start then a.stop.le b.stop else a.start.le b.start

/-- Lines above and below a pattern of several lines. -/
def divider : String := String.ofList (List.replicate 79 '~')

/-- The lines that a pattern is shown in, and how many there are counting an empty one at the end,
which is not shown. A carriage return in front of a line feed is part of the end of the line. -/
def patternLines (pattern : String) : List String × Nat :=
  let pieces := pattern.splitOn "\n"
  let ended := pieces.dropLast.map fun l => if l.endsWith "\r" then (l.dropEnd 1).toString else l
  (ended ++ (pieces.getLast?.toList.filter fun l => ¬ l.isEmpty), pieces.length)

/-- The error together with the pattern, in which the parts at fault are marked. The lines of a
pattern of several are numbered; a part that goes over lines is described and not marked. -/
def report (e : Error) (pattern : String) : String :=
  let (lines, count) := patternLines pattern
  let severalLines := 1 < count
  let width := count.repr.length
  let marked := lines.zipIdx.flatMap fun (line, i) =>
    let number := (i + 1).repr
    let margin := if severalLines then spaces (width - number.length) ++ number ++ ": "
      else spaces 4
    let here := e.spans.filter fun s => s.oneLine ∧ s.start.line = i + 1
    (margin ++ line) ::
      (if here.isEmpty then [] else [spaces margin.length ++ carets here])
  let described := (e.spans.filter fun s => ¬ s.oneLine).map fun s =>
    "on line " ++ s.start.line.repr ++ " (column " ++ s.start.column.repr ++ ") through line "
      ++ s.stop.line.repr ++ " (column " ++ (s.stop.column - 1).repr ++ ")"
  let shown := if severalLines then [divider] ++ marked ++ [divider] ++ described else marked
  "\n".intercalate (["regex parse error:"] ++ shown ++ ["error: " ++ e.problem.text])

end Error

end Chip8.Pattern

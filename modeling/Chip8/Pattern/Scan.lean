import Chip8.Pattern.Error
import Chip8.Text.Blank

/-!
# Scanning a pattern

Going through a pattern character by character, with the place in it at hand for errors.
-/

namespace Chip8.Pattern

/-- How far reading has come. -/
structure Scan where
  rest : List Char
  position : Position
  /-- Whether blanks and comments mean nothing. -/
  spacious : Bool
  /-- The names of groups so far, and where they stand. -/
  names : List (String × Span)
  deriving DecidableEq, Repr

/-- Readers go forward in a pattern and stop at the first thing that is wrong. -/
abbrev Reader := StateT Scan (Except Error)

namespace Scan

def start (pattern : String) : Scan := ⟨pattern.toList, .start, false, []⟩

/-- Goes past the next character, if there is one. -/
def advance (s : Scan) : Scan :=
  match s.rest with
  | [] => s
  | c :: rest => { s with rest, position := s.position.after c }

/-- What is left behind blanks and comments, which go from a number sign to the end of the line. -/
def skip (inComment : Bool) : List Char → Position → List Char × Position
  | [], p => ([], p)
  | c :: cs, p =>
    if inComment then skip (c ≠ '\n') cs (p.after c)
    else if c = '#' then skip true cs (p.after c)
    else if Text.isBlank c then skip false cs (p.after c)
    else (c :: cs, p)

def skipBlank (s : Scan) : Scan :=
  if s.spacious then
    let (rest, position) := skip false s.rest s.position
    { s with rest, position }
  else s

end Scan

namespace Reader

def fail {α : Type} (problem : Problem) (span : Span) : Reader α :=
  throw ⟨problem, span, none⟩

def position : Reader Position := return (← get).position

/-- The next character; none at the end. -/
def next? : Reader (Option Char) := return (← get).rest.head?

/-- The character after the next one. -/
def second? : Reader (Option Char) := return (← get).rest.tail.head?

/-- The character after the next one, beyond blanks and one number sign where those mean
nothing. If nothing else is left, the very next one. -/
def secondBeyondBlank? : Reader (Option Char) := do
  let s ← get
  let behind := s.rest.tail
  if s.spacious then
    let unblank := behind.dropWhile Text.isBlank
    let beyond := match unblank with
      | '#' :: cs => cs.dropWhile Text.isBlank
      | cs => cs
    return beyond.head? <|> behind.head?
  else return behind.head?

def advance : Reader Unit := modify Scan.advance

def skipBlank : Reader Unit := modify Scan.skipBlank

/-- Goes past the next character and the blanks behind it. -/
def advanceBlank : Reader Unit := do
  advance
  skipBlank

/-- From a place to where reading is. -/
def spanFrom (start : Position) : Reader Span := return ⟨start, ← position⟩

/-- The next character's part of the pattern; at the end the part that holds nothing. -/
def nextSpan : Reader Span := do
  let s ← get
  return ⟨s.position, s.advance.position⟩

/-- Goes past so many characters. -/
def advanceBy : Nat → Reader Unit
  | 0 => return
  | n + 1 => do
    advance
    advanceBy n

/-- Goes past a text if it comes next. -/
def take? (text : String) : Reader Bool := do
  if text.toList.isPrefixOf (← get).rest then
    advanceBy text.length
    return true
  else return false

/-- Goes past the characters that satisfy a condition, at most so many, by the given step. -/
def takeWhile (p : Char → Bool) (step : Reader Unit) : (most : Nat) → Reader (List Char)
  | 0 => return []
  | n + 1 => do
    match ← next? with
    | some c =>
      if p c then
        step
        return c :: (← takeWhile p step n)
      else return []
    | none => return []

/-- How many characters are left. -/
def remaining : Reader Nat := return (← get).rest.length

/-- The next character of a pattern that must not end here. What is wrong otherwise began at
`start`. -/
def require (problem : Problem) (start : Position) : Reader Char := do
  match ← next? with
  | some c => return c
  | none => fail problem (← spanFrom start)

/-- The next character of a pattern that must not end here. -/
def requireHere (problem : Problem) : Reader Char := do require problem (← position)

end Reader

end Chip8.Pattern

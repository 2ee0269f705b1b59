import Chip8.Pattern.Scan
import Chip8.Pattern.Tree

/-!
# Repetitions

How often something is repeated: the marks behind it, and the counts in braces.
-/

namespace Chip8.Pattern

/-- How often something is repeated: without a limit if there is no `most`. -/
structure Repetition where
  least : Nat
  most : Option Nat
  deriving DecidableEq, Repr

namespace Repetition

open Reader

/-- The repetition that a single mark stands for. -/
def ofMark? : Char → Option Repetition
  | '?' => some ⟨0, some 1⟩
  | '*' => some ⟨0, none⟩
  | '+' => some ⟨1, none⟩
  | _ => none

/-- Goes past a question mark, which only says in which order to try. -/
def skipPreference : Reader Unit := do
  if (← next?) = some '?' then advance

/-- The greatest count that can be written. -/
def greatestCount : Nat := UInt32.size - 1

def digitsValue (digits : List Char) : Nat :=
  digits.foldl (fun n c => n * 10 + (c.toNat - '0'.toNat)) 0

/-- Reads a count and the blanks around it. What is wrong with it is not reported here, since what
comes behind it may be reported first. -/
def readCount : Reader (Except Error Nat) := do
  let _ ← takeWhile Text.isBlank advance (← remaining)
  let start ← position
  let digits ← takeWhile Char.isDigit advanceBlank (← remaining)
  let span ← spanFrom start
  let _ ← takeWhile Text.isBlank advanceBlank (← remaining)
  if digits.isEmpty then return .error ⟨.emptyCount, span, none⟩
  else if greatestCount < digitsValue digits then return .error ⟨.largeCount, span, none⟩
  else return .ok (digitsValue digits)

/-- Reads counts, from the opening brace on: one, or a least and a greatest one with a comma
between them, of which the greatest may be missing. -/
def readCounts : Reader Repetition := do
  let start ← position
  advanceBlank
  let _ ← require .unclosedCount start
  let least ← readCount
  let c ← require .unclosedCount start
  let counts ← do
    if c = ',' then
      advanceBlank
      let c ← require .unclosedCount start
      if c = '\x7d' then pure ⟨← least, none⟩
      else
        let least ← least
        pure ⟨least, some (← (← readCount))⟩
    else
      let count ← least
      pure ⟨count, some count⟩
  unless (← next?) = some '\x7d' do fail .unclosedCount (← spanFrom start)
  advanceBlank
  skipPreference
  if counts.most.any (· < counts.least) then fail .countOrder (← spanFrom start)
  return counts

/-- Reads the repetition that comes next, if one does. -/
def read? : Reader (Option Repetition) := do
  match ← next? with
  | some '\x7b' => return some (← readCounts)
  | c =>
    match c.bind ofMark? with
    | some r =>
      advance
      skipPreference
      return some r
    | none => return none

end Repetition

end Chip8.Pattern

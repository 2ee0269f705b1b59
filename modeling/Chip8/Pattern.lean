import Chip8.Pattern.Meaning
import Chip8.Pattern.Reader
import Chip8.Pattern.Size

/-!
# Patterns

Regular expressions that texts are searched for.
-/

namespace Chip8

structure Pattern where
  expression : Pattern.Expression
  deriving DecidableEq, Repr

namespace Pattern

/-- Why a pattern cannot be used. -/
inductive Refusal
  | malformed (e : Error)
  | tooLarge
  /-- Boundaries between words of any language cannot be told. -/
  | needsWords
  deriving DecidableEq, Repr

def Refusal.message (pattern : String) : Refusal → String
  | malformed e => e.report pattern
  | tooLarge =>
    "Compiled regex exceeds size limit of " ++ Expression.greatestSize.repr ++ " bytes."
  | needsWords => "error building NFA"

/-- Reads a pattern. -/
def ofText (text : String) : Except Refusal Pattern := do
  let (e, _) ← (Tree.read text >>= Tree.expression .start).mapError .malformed
  if e.isTooLarge then throw .tooLarge
  else if e.needsWords then throw .needsWords
  else return ⟨e⟩

/-- Whether some part of a text matches. -/
def matchesIn (p : Pattern) (text : String) : Bool := p.expression.matchesIn text

end Pattern

end Chip8

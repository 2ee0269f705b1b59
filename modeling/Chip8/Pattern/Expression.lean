import Chip8.Pattern.CharSet

/-!
# Expressions

What patterns mean: regular expressions over sets of characters and over assertions about places.
Matching goes through the expression with the set of all places of a text that the parts so far can
end at, so its cost does not depend on the number of ways to match. Sets of places are numbers: bit
`i` stands for the place in front of the `i`-th character.
-/

namespace Chip8.Pattern

/-- Sides of a word that an assertion asks for. -/
inductive Boundary
  /-- A word begins or ends here. -/
  | edge
  | noEdge
  | start
  | stop
  /-- No word goes on from before, or goes on after. -/
  | startHalf
  | stopHalf
  deriving DecidableEq, Repr

/-- Whether a boundary lies between two places, given whether there are letters of a word on its
left and right. -/
def Boundary.holds : Boundary → (left right : Bool) → Bool
  | edge, left, right => left != right
  | noEdge, left, right => left == right
  | start, left, right => !left && right
  | stop, left, right => left && !right
  | startHalf, left, _ => !left
  | stopHalf, _, right => !right

/-- Assertions about a place. -/
inductive Look
  | textStart
  | textEnd
  | lineStart
  | lineEnd
  /-- The same where a carriage return, alone or with a line feed, ends a line as well. -/
  | crlfStart
  | crlfEnd
  | word (b : Boundary)
  /-- A boundary between words of any language. Patterns that depend on one are refused, so it is
  never decided and counts as not holding. -/
  | anyWord (b : Boundary)
  deriving DecidableEq, Repr

/-- The letters of words: letters, digits and underscores of ASCII. -/
def wordLetters : CharSet := ⟨[⟨0x30, 0x39⟩, ⟨0x41, 0x5A⟩, ⟨0x5F, 0x5F⟩, ⟨0x61, 0x7A⟩]⟩

def isWordLetter (c : Option Char) : Bool := c.any fun c => wordLetters.contains c.toNat

/-- Whether an assertion holds between two characters, either of which is absent at the end. -/
def Look.holds : Look → (left right : Option Char) → Bool
  | textStart, left, _ => left.isNone
  | textEnd, _, right => right.isNone
  | lineStart, left, _ => left.isNone || left = some '\n'
  | lineEnd, _, right => right.isNone || right = some '\n'
  | crlfStart, left, right =>
    left.isNone || left = some '\n' || (left = some '\r' && right ≠ some '\n')
  | crlfEnd, left, right =>
    right.isNone || right = some '\r' || (right = some '\n' && left ≠ some '\r')
  | word b, left, right => b.holds (isWordLetter left) (isWordLetter right)
  | anyWord _, _, _ => false

inductive Expression
  /-- Matches nothing but the empty text. -/
  | empty
  | set (s : CharSet)
  | look (l : Look)
  | followed (first second : Expression)
  | either (first second : Expression)
  /-- At least so many times, and at most so many times more; without a limit if there is none. -/
  | repeated (least : Nat) (more : Option Nat) (e : Expression)
  /-- A part whose match can be asked for. It matches as if it stood there bare. -/
  | captured (e : Expression)
  deriving DecidableEq, Repr

/-- A set of places of a text. -/
abbrev Places := Nat

namespace Places

/-- The places in front of the characters that satisfy a condition. -/
def before (p : Char → Bool) : List Char → Places
  | [] => 0
  | c :: cs => (if p c then 1 else 0) + 2 * before p cs

/-- The places that satisfy a condition on the characters on their left and right. -/
def between (p : Option Char → Option Char → Bool) : (left : Option Char) → List Char → Places
  | left, [] => if p left none then 1 else 0
  | left, c :: cs => (if p left (some c) then 1 else 0) + 2 * between p (some c) cs

/-- Every place of a text. -/
def all (text : List Char) : Places := between (fun _ _ => true) none text

/-- Takes a step so many times. A step that changes nothing is the last one. -/
def iterate (step : Places → Places) : Nat → Places → Places
  | 0, s => s
  | n + 1, s => let s' := step s; if s' = s then s else iterate step n s'

theorem iterate_of_fixed {step : Places → Places} {s : Places} (fixed : step s = s) (n : Nat) :
    iterate step n s = s := by
  cases n with
  | zero => rfl
  | succ n => simp [iterate, fixed]

/-- Stopping early changes nothing. -/
theorem iterate_succ (step : Places → Places) (n : Nat) (s : Places) :
    iterate step (n + 1) s = iterate step n (step s) := by
  by_cases fixed : step s = s
  · rw [fixed, iterate_of_fixed fixed, iterate_of_fixed fixed]
  · simp [iterate, fixed]

end Places

namespace Expression

/-- The places of a text that a match from one of the given places can end at. More rounds of a
repetition than the text has places reach nothing new. -/
def ends (text : List Char) : Expression → Places → Places
  | empty, s => s
  | set cs, s => (s &&& Places.before (fun c => cs.contains c.toNat) text) <<< 1
  | look l, s => s &&& Places.between l.holds none text
  | followed a b, s => b.ends text (a.ends text s)
  | either a b, s => a.ends text s ||| b.ends text s
  | repeated least more e, s =>
    let rounds := text.length + 1
    let reached := Places.iterate (e.ends text) (min least rounds) s
    Places.iterate (fun t => t ||| e.ends text t) (min (more.getD rounds) rounds) reached
  | captured e, s => e.ends text s

/-- Whether some part of a text matches. -/
def matchesIn (e : Expression) (text : String) : Bool :=
  e.ends text.toList (Places.all text.toList) ≠ 0

/-- Whether the expression depends on boundaries between words of any language. -/
def needsWords : Expression → Bool
  | empty | set _ => false
  | look (.anyWord _) => true
  | look _ => false
  | followed a b | either a b => a.needsWords || b.needsWords
  | repeated _ _ e | captured e => e.needsWords

/-- One of several expressions. Sets become one set. -/
def oneOf (es : List Expression) : Expression :=
  let sets := es.filterMap fun
    | set s => some s
    | _ => none
  if sets.length = es.length then set (sets.foldl CharSet.union .empty)
  else
    match es with
    | e :: rest => rest.foldl either e
    | [] => set .empty

end Expression

end Chip8.Pattern

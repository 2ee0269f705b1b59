import Chip8.Pattern.Expression

/-!
# The size of patterns

How many bytes the automata of an expression take with its repetitions written out: one that goes
forward through the encoded bytes of a text, and one that goes backward. Patterns that need more
than a limit are refused.
-/

namespace Chip8.Pattern

/-- Which way an automaton goes. Going backward, it does not tell the matches of parts. -/
inductive Direction
  | forward
  | backward
  deriving DecidableEq, Repr

/-- What a state takes, what each of the ways takes that lead on from it to any of several states,
and what each range of bytes takes that leads on. -/
def stateSize : Nat := 32
def branchSize : Nat := 4
def byteRangeSize : Nat := 8

namespace CharSet

/-- A range of digits of a code point at a place of its encoding, which is counted from the end of
the encoding; for the first digits the length of the encoding stands there. -/
abbrev DigitRange := Nat × Nat × Nat

/-- The code points that are encoded in so many bytes. Surrogates are not encoded. -/
def encodingBlocks : List (Nat × CharRange) :=
  [(1, ⟨0, 0x7F⟩), (2, ⟨0x80, 0x7FF⟩), (3, ⟨0x800, 0xD7FF⟩), (3, ⟨0xE000, 0xFFFF⟩),
   (4, ⟨0x10000, 0x10FFFF⟩)]

/-- What the digits behind the first ones of an encoding count in, from the last digit on. -/
def digitWeights : List Nat := [0x40, 0x1000, 0x40000]

/-- Where a range has to be divided so that its encodings are a range in each place. -/
def division? (r : CharRange) : Option Nat :=
  digitWeights.findSome? fun w =>
    if r.first / w = r.last / w then none
    else if r.first % w ≠ 0 then some ((r.first / w + 1) * w)
    else if r.last % w ≠ w - 1 then some (r.last / w * w)
    else none

/-- Divides a range, at most so many times over. -/
def divide : Nat → CharRange → List CharRange
  | 0, r => [r]
  | n + 1, r =>
    match division? r with
    | some middle => divide n ⟨r.first, middle - 1⟩ ++ divide n ⟨middle, r.last⟩
    | none => [r]

/-- How often a range of encodings of a length is divided at most: ASCII is not. -/
def mostDivisions (length : Nat) : Nat := if length = 1 then 0 else 8

/-- The digits of a range whose encodings have the given length. -/
def digits (length : Nat) (r : CharRange) : List DigitRange :=
  let behind := (digitWeights.take (length - 1)).reverse
  let lead := behind.headD 1
  (length, r.first / lead, r.last / lead) ::
    (behind.zipIdx.map fun (w, i) =>
      let unit := w / 0x40
      (behind.length - i, r.first / unit % 0x40, r.last / unit % 0x40))

/-- The encodings of a set. -/
def encodings (s : CharSet) : List (List DigitRange) :=
  s.normalize.ranges.flatMap fun r =>
    encodingBlocks.flatMap fun (length, block) =>
      (r.common block).toList.flatMap fun part =>
        (divide (mostDivisions length) part).map (digits length)

/-- The size of the backward automaton of several encodings: encodings that begin alike share their
beginnings. -/
def backwardSize (encodings : List (List DigitRange)) : Nat :=
  let beginnings := encodings.flatMap fun e => (List.range e.length).map fun n => e.take (n + 1)
  (beginnings.eraseDups.length + 2) * stateSize + encodings.length * branchSize

/-- The states of the forward automaton of several encodings, each given by the ends of encodings
that lead on from it. -/
def forwardStates : (longest : Nat) → (encodings : List (List DigitRange)) →
    List (List (List DigitRange))
  | 0, _ => []
  | n + 1, encodings =>
    if encodings.all List.isEmpty then []
    else
      let first := (encodings.filterMap List.head?).eraseDups
      encodings :: first.flatMap fun d =>
        forwardStates n ((encodings.filter fun e => e.head? = some d).map List.tail)

/-- The size of the forward automaton of several encodings: encodings that end alike share their
ends. -/
def forwardSize (encodings : List (List DigitRange)) : Nat :=
  let states := (forwardStates 4 encodings).eraseDups
  (states.map fun state =>
    stateSize + (state.filterMap List.head?).eraseDups.length * byteRangeSize).foldl (· + ·)
      stateSize

def size (d : Direction) (s : CharSet) : Nat :=
  let s := s.normalize
  match s.ranges with
  | [] => stateSize
  | [⟨first, last⟩] =>
    if first = last then (Char.ofNat first).utf8Size * stateSize
    else if s.isAscii then 2 * stateSize + byteRangeSize
    else sizeOfEncodings d s
  | ranges =>
    if s.isAscii then 2 * stateSize + ranges.length * byteRangeSize else sizeOfEncodings d s
where
  sizeOfEncodings (d : Direction) (s : CharSet) : Nat :=
    match d with
    | .forward => forwardSize s.encodings
    | .backward => backwardSize s.encodings

end CharSet

namespace Expression

/-- Whether only the empty text can match. -/
def takesNothing : Expression → Bool
  | empty | look _ => true
  | set _ => false
  | followed a b | either a b => a.takesNothing && b.takesNothing
  | repeated least more e => e.takesNothing || (least = 0 && more = some 0)
  | captured e => e.takesNothing

/-- Whether the empty text can match somewhere. -/
def canTakeNothing : Expression → Bool
  | empty | look _ => true
  | set _ => false
  | followed a b => a.canTakeNothing && b.canTakeNothing
  | either a b => a.canTakeNothing || b.canTakeNothing
  | repeated least _ e => least = 0 || e.canTakeNothing
  | captured e => e.canTakeNothing

def isEither : Expression → Bool
  | either .. => true
  | _ => false

/-- The size of a repetition of something of a size. What takes nothing is not repeated more than
once. -/
def repeatedSize (size : Nat) (takesNothing canTakeNothing : Bool) (least : Nat)
    (more : Option Nat) : Nat :=
  let choice := stateSize + 2 * branchSize
  if takesNothing then (if least = 0 then size + choice + stateSize else size)
  else
    match least, more with
    | 0, some 1 => size + choice + stateSize
    | least, some 0 => least * size
    | least, some more => max stateSize (least * size) + more * (size + choice) + stateSize
    | 0, none => size + choice + if canTakeNothing then choice + stateSize else 0
    | least, none => least * size + choice

/-- The size that one of several alternatives adds. Alternatives in alternatives are no different
from those around them. -/
def alternativeSize (size : Nat) (isEither : Bool) : Nat :=
  if isEither then size - 2 * stateSize else max stateSize size + branchSize

/-- The size of the automaton of an expression; nothing for one that says nothing. -/
def size (d : Direction) : Expression → Nat
  | empty => 0
  | look _ => stateSize
  | set s => s.size d
  | followed a b => a.size d + b.size d
  | either a b =>
    alternativeSize (a.size d) a.isEither + alternativeSize (b.size d) b.isEither + 2 * stateSize
  | repeated least more e =>
    repeatedSize (max stateSize (e.size d)) e.takesNothing e.canTakeNothing least more
  | captured e => max stateSize (e.size d) + if d = .forward then 2 * stateSize else 0

/-- What an automaton takes besides its expression: the way to wherever a match begins, the place
where it ends, and going forward its two ends as a part. -/
def frameSize : Direction → Nat
  | .forward => 208
  | .backward => 144

/-- The bytes that an automaton may take. -/
def greatestSize : Nat := 10485760

def isTooLarge (e : Expression) : Bool :=
  [Direction.forward, .backward].any fun d =>
    greatestSize < frameSize d + max stateSize (e.size d)

end Expression

end Chip8.Pattern

/-!
# Terminal controls

Text may hold control sequences, which a terminal obeys and does not show. Text that goes anywhere
else is written without them, and without control characters other than blanks.
-/

namespace Chip8.Text.Terminal

/-- How far a terminal has read into a control sequence. -/
inductive State
  | ground
  | escape
  /-- An escape sequence whose last character is still to come. -/
  | escapeIntermediate
  /-- A control sequence with parameters, such as a colour. -/
  | control
  /-- The three parts of what introduces a device control string. -/
  | deviceEntry
  | deviceParameter
  | deviceIntermediate
  /-- A string for a device, or one that terminals ignore. -/
  | string
  /-- A command for the system around the terminal. -/
  | systemCommand
  deriving DecidableEq, Repr

namespace State

/-- Whether blanks that are control characters are carried out, not swallowed by a sequence. -/
def showsBlanks : State → Bool
  | ground | escape | escapeIntermediate | control => true
  | _ => false

/-- The state after a character of ASCII that is no control character. -/
def afterAscii (s : State) (n : Nat) : State :=
  match s with
  | ground => ground
  | escape =>
    if n = 0x50 then deviceEntry
    else if n = 0x5B then control
    else if n = 0x5D then systemCommand
    else if n = 0x58 ∨ n = 0x5E ∨ n = 0x5F then string
    else if n < 0x30 then escapeIntermediate
    else ground
  | escapeIntermediate => if n < 0x30 then escapeIntermediate else ground
  | control => if n < 0x40 then control else ground
  | deviceEntry =>
    if n < 0x30 then deviceIntermediate
    else if n = 0x3A ∨ 0x40 ≤ n then string
    else deviceParameter
  | deviceParameter =>
    if n < 0x30 then deviceIntermediate
    else if n < 0x3A ∨ n = 0x3B then deviceParameter
    else string
  | deviceIntermediate => if n < 0x30 then deviceIntermediate else string
  | string => string
  | systemCommand => systemCommand

/-- The byte that ends a string. -/
def terminator : UInt8 := 0x9C

/-- The state after a character. -/
def after (s : State) (c : Char) : State :=
  let n := c.toNat
  if n = 0x1B then escape
  else if n = 0x18 ∨ n = 0x1A then ground
  else if n < 0x20 ∨ n = 0x7F then (if s = systemCommand ∧ n = 0x07 then ground else s)
  else if n < 0x80 then s.afterAscii n
  else if s = string ∧ terminator ∈ (String.utf8EncodeChar c) then ground
  else s

/-- Whether a character is shown. -/
def shows (s : State) (c : Char) : Bool :=
  let n := c.toNat
  if n = 0x09 ∨ n = 0x0A ∨ n = 0x0C ∨ n = 0x0D then s.showsBlanks
  else s = ground && 0x20 ≤ n && n ≠ 0x7F

end State

/-- The characters that are shown from a state on. While `showing`, what comes is judged as outside
of sequences until something is not shown; the state that was reached stays for what follows then,
unless a character past ASCII has been shown. -/
def shown (showing : Bool) (s : State) : List Char → List Char
  | [] => []
  | c :: cs =>
    if showing && State.ground.shows c then
      c :: shown true (if c.toNat < 0x80 then s else .ground) cs
    else if s.shows c then c :: shown true (s.after c) cs
    else shown false (s.after c) cs

end Terminal

/-- A text as it is written where there is no terminal. -/
def withoutControls (text : String) : String :=
  String.ofList (Terminal.shown false .ground text.toList)

end Chip8.Text

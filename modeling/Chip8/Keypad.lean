import Chip8.Fault

/-!
# The keypad

Sixteen lines, each pressed or released. Events reach the lines in two ways: applied at once, or
sent to a queue that the machine drains in order at the start of a cycle.
-/

namespace Chip8

abbrev keyCount : Nat := 16

inductive KeyEvent
  | pressed (key : UInt8)
  | released (key : UInt8)
  deriving DecidableEq, Repr

namespace KeyEvent

def key : KeyEvent → UInt8
  | pressed key => key
  | released key => key

/-- What the event makes of its line. -/
def isPress : KeyEvent → Bool
  | pressed _ => true
  | released _ => false

end KeyEvent

structure Keypad where
  lines : Vector Bool keyCount
  /-- Events sent and not yet drained, oldest first. -/
  pending : List KeyEvent
  deriving DecidableEq, Repr

namespace Keypad

def released : Keypad := { lines := Vector.replicate keyCount false, pending := [] }

/-- Sets the event's line. An event for a line that does not exist changes nothing. -/
def apply (k : Keypad) (event : KeyEvent) : Keypad :=
  { k with lines := k.lines.setIfInBounds event.key.toNat event.isPress }

def send (k : Keypad) (event : KeyEvent) : Keypad :=
  { k with pending := k.pending ++ [event] }

/-- Applies every pending event, oldest first. -/
def drain (k : Keypad) : Keypad :=
  k.pending.foldl apply { k with pending := [] }

theorem getElem_lines_apply (k : Keypad) (event : KeyEvent) (i : Nat) (hi : i < keyCount) :
    (k.apply event).lines[i] = if event.key.toNat = i then event.isPress else k.lines[i] := by
  simp [apply, Vector.getElem_setIfInBounds]

@[simp] theorem pending_apply (k : Keypad) (event : KeyEvent) :
    (k.apply event).pending = k.pending := rfl

theorem pending_foldl_apply (events : List KeyEvent) (k : Keypad) :
    (events.foldl apply k).pending = k.pending := by
  induction events generalizing k with
  | nil => rfl
  | cons e es ih => rw [List.foldl_cons, ih, pending_apply]

/-- Draining empties the queue. -/
@[simp] theorem pending_drain (k : Keypad) : k.drain.pending = [] := by
  rw [drain, pending_foldl_apply]

def isPressed (k : Keypad) (key : UInt8) : Except Fault Bool :=
  if h : key.toNat < keyCount then .ok k.lines[key.toNat] else .error (.keyOutOfRange key)

/-- Marks a press as consumed. -/
def clear (k : Keypad) (key : UInt8) : Except Fault Keypad :=
  if h : key.toNat < keyCount then .ok { k with lines := k.lines.set key.toNat false }
  else .error (.keyOutOfRange key)

theorem isPressed_eq_error_iff {k : Keypad} {key : UInt8} {f : Fault} :
    k.isPressed key = .error f ↔ keyCount ≤ key.toNat ∧ f = .keyOutOfRange key := by
  unfold isPressed
  split
  · rename_i inside
    simp [Nat.not_le.mpr inside]
  · rename_i outside
    simp [Nat.le_of_not_lt outside, eq_comm]

theorem isPressed_eq_ok_iff {k : Keypad} {key : UInt8} {pressed : Bool} :
    k.isPressed key = .ok pressed ↔ k.lines[key.toNat]? = some pressed := by
  unfold isPressed
  split
  · rename_i inside
    simp [inside]
  · rename_i outside
    simp [outside]

theorem clear_eq_ok_iff {k cleared : Keypad} {key : UInt8} :
    k.clear key = .ok cleared ↔ ∃ inside : key.toNat < keyCount,
      cleared = { k with lines := k.lines.set key.toNat false } := by
  unfold clear
  split
  · rename_i inside
    simp [inside, eq_comm]
  · rename_i outside
    simp [outside]

/-- A line whose state can be read can be cleared. -/
theorem clear_of_isPressed {k : Keypad} {key : UInt8} {pressed : Bool}
    (read : k.isPressed key = .ok pressed) : ∃ cleared, k.clear key = .ok cleared := by
  unfold isPressed at read
  split at read
  · rename_i inside
    exact ⟨{ k with lines := k.lines.set key.toNat false }, dif_pos inside⟩
  · cases read

/-- The lowest pressed line. -/
def firstPressed (k : Keypad) : Option (Fin keyCount) :=
  (List.finRange keyCount).find? fun key => k.lines[key]

theorem firstPressed_eq_none_iff {k : Keypad} : k.firstPressed = none ↔ true ∉ k.lines := by
  simp only [firstPressed, List.find?_eq_none, List.mem_finRange, true_implies,
    Vector.mem_iff_getElem]
  constructor
  · rintro none ⟨key, inside, pressed⟩
    exact none ⟨key, inside⟩ pressed
  · intro absent key pressed
    exact absent ⟨key, key.isLt, pressed⟩

theorem firstPressed_eq_some_iff {k : Keypad} {key : Fin keyCount} :
    k.firstPressed = some key ↔
      k.lines.get key = true ∧ ∀ lower : Fin keyCount, lower < key → k.lines.get lower = false := by
  simp only [firstPressed, List.find?_eq_some_iff_getElem, List.length_finRange,
    List.getElem_finRange, Bool.not_eq_eq_eq_not, Bool.not_true]
  constructor
  · rintro ⟨pressed, place, inside, rfl, before⟩
    exact ⟨pressed, fun lower below => before lower.val below⟩
  · rintro ⟨pressed, before⟩
    exact ⟨pressed, key.val, key.isLt, rfl, fun lower below =>
      before ⟨lower, Nat.lt_trans below key.isLt⟩ below⟩

end Keypad

end Chip8

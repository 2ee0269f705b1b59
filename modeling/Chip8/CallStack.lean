import Chip8.Fault

/-!
# The call stack

Return addresses of the calls in progress, at most sixteen. Slots at and above the depth keep what
earlier calls left there; nothing reads them but a snapshot of the machine.
-/

namespace Chip8

/-- The number of calls that may be in progress at once. -/
abbrev callLevels : Nat := 16

structure CallStack where
  slots : Vector UInt16 callLevels
  depth : Nat
  depth_le : depth ≤ callLevels := by omega
  deriving DecidableEq, Repr

namespace CallStack

def empty : CallStack := { slots := Vector.replicate callLevels 0, depth := 0 }

/-- Enters a call that comes back to `back`. The called address only describes a refused call. -/
def push (s : CallStack) (back target : UInt16) : Except Fault CallStack :=
  if h : s.depth < callLevels then
    .ok { slots := s.slots.set s.depth back, depth := s.depth + 1 }
  else .error (.stackOverflow target)

/-- Leaves the innermost call: where it comes back to, and the calls that remain. -/
def pop (s : CallStack) : Except Fault (UInt16 × CallStack) :=
  if h : s.depth = 0 then .error .stackUnderflow
  else
    have := s.depth_le
    .ok (s.slots[s.depth - 1], { slots := s.slots, depth := s.depth - 1 })

/-- The calls in progress, outermost first. -/
def frames (s : CallStack) : List UInt16 := s.slots.toList.take s.depth

theorem length_frames (s : CallStack) : s.frames.length = s.depth := by
  have := s.depth_le
  simp only [frames, List.length_take, Vector.length_toList]
  omega

theorem frames_push {s pushed : CallStack} {back target : UInt16}
    (h : s.push back target = .ok pushed) : pushed.frames = s.frames ++ [back] := by
  unfold push at h
  split at h
  · rename_i room
    cases h
    simp only [frames, Vector.toList_set]
    rw [List.take_add_one, List.take_set_of_le (Nat.le_refl _)]
    simp [room]
  · cases h

theorem frames_pop {s popped : CallStack} {back : UInt16}
    (h : s.pop = .ok (back, popped)) : s.frames = popped.frames ++ [back] := by
  unfold pop at h
  split at h
  · cases h
  · rename_i used
    cases h
    have bound := s.depth_le
    obtain ⟨d, hd⟩ : ∃ d, s.depth = d + 1 := ⟨s.depth - 1, by omega⟩
    have inside : d < callLevels := by omega
    simp only [frames, hd, Nat.add_sub_cancel]
    rw [List.take_add_one]
    simp [inside]

/-- A call fills the slot at the old depth and no other. -/
theorem slots_push {s pushed : CallStack} {back target : UInt16}
    (h : s.push back target = .ok pushed) :
    pushed.depth = s.depth + 1 ∧ ∀ (k : Nat) (inside : k < callLevels),
      pushed.slots[k] = if s.depth = k then back else s.slots[k] := by
  unfold push at h
  split at h
  · rename_i room
    cases h
    exact ⟨rfl, fun _ inside => Vector.getElem_set room inside⟩
  · cases h

/-- A return reads the slot at the new depth and changes none. -/
theorem slots_pop {s popped : CallStack} {back : UInt16} (h : s.pop = .ok (back, popped)) :
    s.depth = popped.depth + 1 ∧ popped.slots = s.slots ∧
      ∃ inside : popped.depth < callLevels, back = s.slots[popped.depth] := by
  have levels := s.depth_le
  unfold pop at h
  split at h
  · cases h
  · rename_i used
    cases h
    exact ⟨by simp only; omega, rfl, by simp only; omega, rfl⟩

theorem push_eq_error_iff {s : CallStack} {back target : UInt16} {f : Fault} :
    s.push back target = .error f ↔ s.depth = callLevels ∧ f = .stackOverflow target := by
  have := s.depth_le
  unfold push
  split
  · rename_i room
    simp [Nat.ne_of_lt room]
  · rename_i full
    simp [show s.depth = callLevels by omega, eq_comm]

theorem pop_eq_error_iff {s : CallStack} {f : Fault} :
    s.pop = .error f ↔ s.depth = 0 ∧ f = .stackUnderflow := by
  unfold pop
  split
  · rename_i unused
    simp [unused, eq_comm]
  · rename_i used
    simp [used]

end CallStack

end Chip8

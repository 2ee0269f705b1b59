/-!
# Timers

Counters that a program sets and that run down to zero, one step per cycle.
-/

namespace Chip8

structure Timer where
  count : UInt8
  deriving DecidableEq, Repr

namespace Timer

def stopped : Timer := ⟨0⟩

/-- One step down; a timer at zero stays there. -/
def tick (t : Timer) : Timer := ⟨if t.count = 0 then 0 else t.count - 1⟩

def isActive (t : Timer) : Bool := t.count ≠ 0

theorem toNat_count_tick (t : Timer) : t.tick.count.toNat = t.count.toNat - 1 := by
  by_cases h : t.count = 0
  · simp [tick, h]
  · have hpos : 1 ≤ t.count.toNat := by
      rcases Nat.eq_zero_or_pos t.count.toNat with h0 | h0
      · exact absurd (UInt8.toNat.inj (by simpa using h0)) h
      · exact h0
    simp only [tick, h, if_false]
    rw [UInt8.toNat_sub_of_le _ _ (UInt8.le_iff_toNat_le.2 (by simpa using hpos))]
    simp

end Timer

end Chip8

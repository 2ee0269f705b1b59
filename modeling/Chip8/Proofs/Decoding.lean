import Mathlib.Algebra.Group.Nat.Defs
import Chip8.Instruction

/-!
# Decoding against the instruction table

The decoder masks a word and looks the rest up. The instruction table instead lists, for each
instruction and its operands, the words that stand for it (`Spells`), as sums of nibbles. The two
agree in both directions: a word decodes to the instruction that it spells (`decode_of_spells`),
and a word that decodes to anything but `unknown` spells it (`spells_decode`).
-/

namespace Chip8

namespace Word

/-- Masking with `k` ones above `m` zeros cuts out the digits in between. -/
theorem and_ones_shiftLeft (n k m : Nat) :
    n &&& ((2 ^ k - 1) <<< m) = n / 2 ^ m % 2 ^ k * 2 ^ m := by
  rw [← Nat.shiftLeft_eq, ← Nat.and_two_pow_sub_one_eq_mod, ← Nat.shiftRight_eq_div_pow]
  apply Nat.eq_of_testBit_eq
  intro i
  by_cases above : m ≤ i
  · simp [Nat.testBit_shiftLeft, above, Bool.and_comm]
  · simp [Nat.testBit_shiftLeft, above]

/-- Masking a word with its first nibble and its last `j` bits keeps just these. -/
theorem toNat_and_mask (w mask : UInt16) (j : Nat) (narrow : j ≤ 12)
    (shape : mask.toNat = (2 ^ 4 - 1) <<< 12 ||| (2 ^ j - 1)) :
    (w &&& mask).toNat = w.toNat / 0x1000 * 0x1000 + w.toNat % 2 ^ j := by
  have bound := w.toNat_lt
  have low : w.toNat % 2 ^ j < 2 ^ 12 :=
    Nat.lt_of_lt_of_le (Nat.mod_lt _ (Nat.two_pow_pos j)) (Nat.pow_le_pow_right (by decide) narrow)
  have high : w.toNat / 2 ^ 12 % 2 ^ 4 = w.toNat / 0x1000 := by omega
  rw [UInt16.toNat_and, shape, Nat.and_or_distrib_left, and_ones_shiftLeft,
    Nat.and_two_pow_sub_one_eq_mod, high, ← Nat.shiftLeft_eq,
    ← Nat.shiftLeft_add_eq_or_of_lt low, Nat.shiftLeft_eq]

/-- The part of a word below its first nibble that helps to choose the instruction, as the modulus
that cuts it out: all of it in family 0, at most the last two nibbles in the others. -/
def selecting : Nat → Nat
  | 0x0 => 0x1000
  | 0x8 | 0x9 => 0x10
  | 0xE | 0xF => 0x100
  | _ => 1

theorem toNat_pattern (w : UInt16) :
    (pattern w).toNat = w.toNat / 0x1000 * 0x1000 + w.toNat % selecting (w.toNat / 0x1000) := by
  have bound := w.toNat_lt
  have first : w.toNat / 0x1000 = (family w).val := by
    simp only [family]
    omega
  rw [first]
  unfold pattern
  split
  · rename_i chosen
    simp only [chosen, selecting]
    rw [chosen] at first
    simp at first ⊢
    omega
  · rename_i chosen
    rw [toNat_and_mask w _ 4 (by decide) (by decide), first, chosen]
    rfl
  · rename_i chosen
    rw [toNat_and_mask w _ 4 (by decide) (by decide), first, chosen]
    rfl
  · rename_i chosen
    rw [toNat_and_mask w _ 8 (by decide) (by decide), first, chosen]
    rfl
  · rename_i chosen
    rw [toNat_and_mask w _ 8 (by decide) (by decide), first, chosen]
    rfl
  · rename_i not0 not8 not9 notE notF
    rw [toNat_and_mask w _ 0 (by decide) (by decide), first]
    unfold selecting
    -- the families with selecting nibbles are the ones excluded above
    split
    · exact absurd (Fin.ext (by assumption)) not0
    · exact absurd (Fin.ext (by assumption)) not8
    · exact absurd (Fin.ext (by assumption)) not9
    · exact absurd (Fin.ext (by assumption)) notE
    · exact absurd (Fin.ext (by assumption)) notF
    · rfl

/-- A word has a given pattern exactly if the two agree in their first nibble and in what selects
the instruction below it. -/
theorem pattern_eq_iff (w p : UInt16) :
    pattern w = p ↔ w.toNat / 0x1000 = p.toNat / 0x1000 ∧
      w.toNat % selecting (p.toNat / 0x1000) = p.toNat % 0x1000 := by
  have cut : ∀ f, w.toNat % selecting f < 0x1000 := by
    intro f
    unfold selecting
    split <;> omega
  rw [← UInt16.toNat_inj, toNat_pattern]
  constructor
  · intro equal
    have below := cut (w.toNat / 0x1000)
    have first : w.toNat / 0x1000 = p.toNat / 0x1000 := by omega
    rw [← first]
    omega
  · rintro ⟨first, rest⟩
    rw [first, rest]
    omega

theorem val_x (w : UInt16) : (x w).val = w.toNat / 0x100 % 16 := rfl

theorem val_y (w : UInt16) : (y w).val = w.toNat / 0x10 % 16 := rfl

theorem val_n (w : UInt16) : (n w).val = w.toNat % 16 := rfl

theorem val_nnn (w : UInt16) : (nnn w).val = w.toNat % 0x1000 := rfl

theorem toNat_kk (w : UInt16) : (kk w).toNat = w.toNat % 0x100 := by
  simp [kk]

end Word

namespace Instruction

open Word

/-- The words that the instruction table lists for an instruction, nibble by nibble. A nibble that
is named nowhere in the instruction can be anything. -/
def Spells : Instruction → Nat → Prop
  | clearScreen, w => w = 0x00E0
  | ret, w => w = 0x00EE
  | jump t, w => w = 0x1000 + t
  | call t, w => w = 0x2000 + t
  | skipIfByte x kk, w => w = 0x3000 + 0x100 * x + kk.toNat
  | skipUnlessByte x kk, w => w = 0x4000 + 0x100 * x + kk.toNat
  | skipIfSame x y, w => ∃ n < 0x10, w = 0x5000 + 0x100 * x + 0x10 * y + n
  | setByte x kk, w => w = 0x6000 + 0x100 * x + kk.toNat
  | addByte x kk, w => w = 0x7000 + 0x100 * x + kk.toNat
  | copy x y, w => w = 0x8000 + 0x100 * x + 0x10 * y
  | or x y, w => w = 0x8001 + 0x100 * x + 0x10 * y
  | and x y, w => w = 0x8002 + 0x100 * x + 0x10 * y
  | xor x y, w => w = 0x8003 + 0x100 * x + 0x10 * y
  | add x y, w => w = 0x8004 + 0x100 * x + 0x10 * y
  | subtract x y, w => w = 0x8005 + 0x100 * x + 0x10 * y
  | shiftRight x, w => ∃ y < 0x10, w = 0x8006 + 0x100 * x + 0x10 * y
  | subtractFrom x y, w => w = 0x8007 + 0x100 * x + 0x10 * y
  | shiftLeft x, w => ∃ y < 0x10, w = 0x800E + 0x100 * x + 0x10 * y
  | skipUnlessSame x y, w => w = 0x9000 + 0x100 * x + 0x10 * y
  | setIndex t, w => w = 0xA000 + t
  | jumpOffset t, w => w = 0xB000 + t
  | random x kk, w => w = 0xC000 + 0x100 * x + kk.toNat
  | draw x y n, w => w = 0xD000 + 0x100 * x + 0x10 * y + n
  | skipIfPressed x, w => w = 0xE09E + 0x100 * x
  | skipUnlessPressed x, w => w = 0xE0A1 + 0x100 * x
  | readDelay x, w => w = 0xF007 + 0x100 * x
  | awaitKey x, w => w = 0xF00A + 0x100 * x
  | setDelay x, w => w = 0xF015 + 0x100 * x
  | setSound x, w => w = 0xF018 + 0x100 * x
  | addIndex x, w => w = 0xF01E + 0x100 * x
  | pointGlyph x, w => w = 0xF029 + 0x100 * x
  | storeDecimal x, w => w = 0xF033 + 0x100 * x
  | storeRegisters x, w => w = 0xF055 + 0x100 * x
  | loadRegisters x, w => w = 0xF065 + 0x100 * x
  | unknown _, _ => False

/-- The words of an instruction with the nibbles that its operands stand in set to zero. -/
def selector : Instruction → UInt16
  | clearScreen => 0x00E0
  | ret => 0x00EE
  | jump _ => 0x1000
  | call _ => 0x2000
  | skipIfByte .. => 0x3000
  | skipUnlessByte .. => 0x4000
  | skipIfSame .. => 0x5000
  | setByte .. => 0x6000
  | addByte .. => 0x7000
  | copy .. => 0x8000
  | or .. => 0x8001
  | and .. => 0x8002
  | xor .. => 0x8003
  | add .. => 0x8004
  | subtract .. => 0x8005
  | shiftRight _ => 0x8006
  | subtractFrom .. => 0x8007
  | shiftLeft _ => 0x800E
  | skipUnlessSame .. => 0x9000
  | setIndex _ => 0xA000
  | jumpOffset _ => 0xB000
  | random .. => 0xC000
  | draw .. => 0xD000
  | skipIfPressed _ => 0xE09E
  | skipUnlessPressed _ => 0xE0A1
  | readDelay _ => 0xF007
  | awaitKey _ => 0xF00A
  | setDelay _ => 0xF015
  | setSound _ => 0xF018
  | addIndex _ => 0xF01E
  | pointGlyph _ => 0xF029
  | storeDecimal _ => 0xF033
  | storeRegisters _ => 0xF055
  | loadRegisters _ => 0xF065
  | unknown w => w

/-- A word that is no instruction decodes to itself as unknown; any other spells what it decodes
to. -/
theorem spells_decode (w : UInt16) : Spells (decode w) w.toNat ∨ decode w = unknown w := by
  have bound := w.toNat_lt
  unfold decode
  split
  case h_35 => exact .inr rfl
  all_goals
    rename_i chosen
    obtain ⟨first, rest⟩ := (pattern_eq_iff w _).mp chosen
    simp only [UInt16.reduceToNat, Nat.reduceDiv, Nat.reduceMod, selecting, Nat.mod_one]
      at first rest
    simp only [Spells, val_x, val_y, val_n, val_nnn, toNat_kk]
    left
  -- the three rows with an open nibble: it is read off the word
  case h_7 => exact ⟨w.toNat % 0x10, Nat.mod_lt _ (by decide), by omega⟩
  case h_16 | h_18 => exact ⟨w.toNat / 0x10 % 0x10, Nat.mod_lt _ (by decide), by omega⟩
  all_goals omega

theorem pattern_of_spells {i : Instruction} {w : UInt16} (spelled : Spells i w.toNat) :
    pattern w = i.selector := by
  rw [pattern_eq_iff]
  cases i <;>
    simp only [Spells, selector, UInt16.reduceToNat, Nat.reduceDiv, Nat.reduceMod, selecting]
      at spelled ⊢
  case skipIfSame | shiftRight | shiftLeft =>
    obtain ⟨nibble, small, spelled⟩ := spelled
    omega
  case skipIfByte x kk | skipUnlessByte x kk | setByte x kk | addByte x kk | random x kk =>
    have byte := kk.toNat_lt
    omega
  all_goals omega

/-- A word that spells an instruction decodes to it, operands included. -/
theorem decode_of_spells {i : Instruction} {w : UInt16} (spelled : Spells i w.toNat) :
    decode w = i := by
  have chosen := pattern_of_spells spelled
  cases i <;> simp only [Spells, selector] at spelled chosen <;>
    simp [decode, chosen, Fin.ext_iff, ← UInt8.toNat_inj, val_x, val_y, val_n, val_nnn, toNat_kk]
  case skipIfSame | shiftRight | shiftLeft =>
    obtain ⟨nibble, small, spelled⟩ := spelled
    omega
  case skipIfByte x kk | skipUnlessByte x kk | setByte x kk | addByte x kk | random x kk =>
    have byte := kk.toNat_lt
    omega
  all_goals omega

/-- The instruction table and the decoder say the same of every instruction. -/
theorem decode_eq_iff {i : Instruction} (known : ∀ v, i ≠ unknown v) (w : UInt16) :
    decode w = i ↔ Spells i w.toNat := by
  constructor
  · intro decoded
    rcases spells_decode w with spelled | none
    · rwa [decoded] at spelled
    · exact absurd (decoded.symm.trans none) (known w)
  · exact decode_of_spells

end Instruction

end Chip8

import Mathlib.Data.Nat.Bitwise
import Chip8.Proofs.Decoding
import Chip8.Proofs.Effects

/-!
# Arithmetic that reports in a flag

8xy4 computes first and then reports its carry in VF. 8xy5, 8xy6, 8xy7 and 8xyE report first, and then
compute from the registers that hold the report (`execute_reportFirst`). So it matters whether x or y
is F. With y = F, 8xy4 adds the old VF, and 8xy5 and 8xy7 compute with the new one; with x = F, 8xy4
keeps the carry alone, and the result of the others replaces what they report. `flag_arithmetic` says
this for all registers and all operands, and what follows where x, y and F are three registers.
-/

namespace Chip8

/-- The word 8xyn. -/
def Word.arithmetic (x y : Register) (n : Nat) : UInt16 :=
  UInt16.ofNat (0x8000 + 0x100 * x + 0x10 * y + n)

theorem Word.toNat_arithmetic (x y : Register) {n : Nat} (nibble : n < 0x10) :
    (arithmetic x y n).toNat = 0x8000 + 0x100 * x + 0x10 * y + n := by
  rw [arithmetic, UInt16.toNat_ofNat']
  omega

/-- The instructions that report before they compute. -/
inductive ReportFirst
  /-- 8xy5: Vx - Vy, and whether nothing is borrowed and something is left. -/
  | subtract
  /-- 8xy6: half of Vx, and the bit that is lost. -/
  | shiftRight
  /-- 8xy7: Vy - Vx, as 8xy5. -/
  | subtractFrom
  /-- 8xyE: the double of Vx, and the bit that is lost. -/
  | shiftLeft
  deriving DecidableEq, Repr

namespace ReportFirst

/-- The last nibble of the words. -/
def nibble : ReportFirst → Nat
  | subtract => 0x5
  | shiftRight => 0x6
  | subtractFrom => 0x7
  | shiftLeft => 0xE

/-- What is reported of the values of Vx and Vy. -/
def report (vx vy : Nat) : ReportFirst → Bool
  | subtract => vy < vx
  | shiftRight => vx.testBit 0
  | subtractFrom => vx < vy
  | shiftLeft => vx.testBit 7

/-- What is computed from the values of Vx and Vy. -/
def result (vx vy : Nat) : ReportFirst → Nat
  | subtract => (256 + vx - vy) % 256
  | shiftRight => vx / 2
  | subtractFrom => (256 + vy - vx) % 256
  | shiftLeft => 2 * vx % 256

/-- The instruction that the words decode to. -/
def instruction (x y : Register) : ReportFirst → Instruction
  | subtract => .subtract x y
  | shiftRight => .shiftRight x
  | subtractFrom => .subtractFrom x y
  | shiftLeft => .shiftLeft x

theorem decode_arithmetic (op : ReportFirst) (x y : Register) :
    Instruction.decode (Word.arithmetic x y op.nibble) = op.instruction x y := by
  apply Instruction.decode_of_spells
  have nibble : op.nibble < 0x10 := by cases op <;> decide
  rw [Word.toNat_arithmetic x y nibble]
  cases op <;> simp only [Instruction.Spells, instruction, ReportFirst.nibble]
  case subtract | subtractFrom => omega
  case shiftRight | shiftLeft => exact ⟨y, y.isLt, by omega⟩

theorem result_lt (op : ReportFirst) {vx vy : Nat} (byte : vx < 256) : op.result vx vy < 256 := by
  cases op <;> simp only [result] <;> omega

end ReportFirst

/-! ## Bytes as numbers -/

theorem sub_eq_ofNat (a b : UInt8) : a - b = UInt8.ofNat ((256 + a.toNat - b.toNat) % 256) := by
  have bound := b.toNat_lt
  rw [← UInt8.toNat_inj, UInt8.toNat_sub, UInt8.toNat_ofNat']
  omega

theorem shiftRight_one_eq_ofNat (a : UInt8) : a >>> 1 = UInt8.ofNat (a.toNat / 2) := by
  have bound := a.toNat_lt
  rw [← UInt8.toNat_inj, UInt8.toNat_shiftRight, UInt8.toNat_ofNat']
  simp only [UInt8.reduceToNat, Nat.reduceMod, Nat.shiftRight_eq_div_pow]
  omega

theorem shiftLeft_one_eq_ofNat (a : UInt8) : a <<< 1 = UInt8.ofNat (2 * a.toNat % 256) := by
  rw [← UInt8.toNat_inj, UInt8.toNat_shiftLeft, UInt8.toNat_ofNat']
  simp only [UInt8.reduceToNat, Nat.reduceMod, Nat.shiftLeft_eq]
  omega

/-- The lowest bit, by a mask and by its number. -/
theorem lowBit_eq_testBit (a : UInt8) : (a &&& 1 == 1) = a.toNat.testBit 0 := by
  have masked : (a &&& 1).toNat = a.toNat % 2 := by
    rw [UInt8.toNat_and]
    exact Nat.and_one_is_mod _
  rw [Bool.eq_iff_iff, beq_iff_eq, ← UInt8.toNat_inj, masked, Nat.testBit_zero, decide_eq_true_iff]
  rfl

/-- The highest bit, in the same two ways. -/
theorem highBit_eq_testBit (a : UInt8) : (a &&& 0x80 != 0) = a.toNat.testBit 7 := by
  have masked : (a &&& 0x80).toNat = (a.toNat.testBit 7).toNat * 2 ^ 7 := by
    rw [UInt8.toNat_and]
    exact Nat.and_two_pow _ 7
  rw [Bool.eq_iff_iff, bne_iff_ne, Ne, ← UInt8.toNat_inj, masked]
  cases a.toNat.testBit 7 <;> simp

namespace Registers

/-- `after` is `r` with the sum of Vx and Vy in Vx and its carry in VF; where these are the same
register, with the carry. -/
structure SumAndCarry (x y : Register) (r after : Registers) : Prop where
  carry : (after.get .flag).toNat = if 255 < (r.get x).toNat + (r.get y).toNat then 1 else 0
  sum : x ≠ .flag →
    (after.get x).toNat + 256 * (after.get .flag).toNat = (r.get x).toNat + (r.get y).toNat
  others : ∀ k, k ≠ x → k ≠ .flag → after.get k = r.get k

/-- `after` is `r` with the report on Vx and Vy in VF, and then with the result of the Vx and Vy that
are there by now in Vx. -/
def ReportThenResult (op : ReportFirst) (x y : Register) (r after : Registers) : Prop :=
  ∃ flagged : Registers,
    (flagged.get .flag).toNat = (op.report (r.get x).toNat (r.get y).toNat).toNat ∧
    (∀ k, k ≠ .flag → flagged.get k = r.get k) ∧
    (after.get x).toNat = op.result (flagged.get x).toNat (flagged.get y).toNat ∧
    ∀ k, k ≠ x → after.get k = flagged.get k

variable {x y : Register} {r after : Registers}

/-- Without the flag among the operands, the report does not get in the way. -/
theorem ReportThenResult.apart {op : ReportFirst} (spec : ReportThenResult op x y r after)
    (notX : x ≠ .flag) (notY : y ≠ .flag) :
    (after.get x).toNat = op.result (r.get x).toNat (r.get y).toNat ∧
      (after.get .flag).toNat = (op.report (r.get x).toNat (r.get y).toNat).toNat ∧
      ∀ k, k ≠ x → k ≠ .flag → after.get k = r.get k := by
  obtain ⟨flagged, flag, kept, computed, others⟩ := spec
  rw [kept x notX, kept y notY] at computed
  refine ⟨computed, ?_, fun k other notFlag => ?_⟩
  · rw [others .flag (Ne.symm notX), flag]
  · rw [others k other, kept k notFlag]

theorem toNat_get_setFlag (r : Registers) (on : Bool) :
    ((r.setFlag on).get .flag).toNat = on.toNat := by
  cases on <;> simp [setFlag]

end Registers

namespace Machine

open Word Registers

/-- The machine after it has executed the word `w`. -/
def executed (m : Machine) (w : UInt16) : Machine := (m.execute (.decode w)).2

theorem execute_sum (m : Machine) (x y : Register) :
    m.execute (.decode (arithmetic x y 0x4)) = done (m.addRegisters x y) := by
  have spelled : Instruction.Spells (.add x y) (arithmetic x y 0x4).toNat := by
    rw [toNat_arithmetic x y (by decide), Instruction.Spells]
    omega
  rw [Instruction.decode_of_spells spelled, execute]

/-- The four instructions do the same with different reports and results. -/
theorem execute_reportFirst (m : Machine) (op : ReportFirst) (x y : Register) :
    m.execute (.decode (arithmetic x y op.nibble)) =
      done (m.flagThen x (op.report (m.registers.get x).toNat (m.registers.get y).toNat)
        fun r => UInt8.ofNat (op.result (r.get x).toNat (r.get y).toNat)) := by
  rw [ReportFirst.decode_arithmetic]
  cases op
  case subtract =>
    simp only [ReportFirst.instruction, execute, sub_eq_ofNat, UInt8.lt_iff_toNat_lt]
    rfl
  case shiftRight =>
    simp only [ReportFirst.instruction, execute, shiftRight_one_eq_ofNat, lowBit_eq_testBit]
    rfl
  case subtractFrom =>
    simp only [ReportFirst.instruction, execute, sub_eq_ofNat, UInt8.lt_iff_toNat_lt]
    rfl
  case shiftLeft =>
    simp only [ReportFirst.instruction, execute, shiftLeft_one_eq_ofNat, highBit_eq_testBit]
    rfl

theorem sumAndCarry_executed (m : Machine) (x y : Register) :
    SumAndCarry x y m.registers (m.executed (arithmetic x y 0x4)).registers := by
  have result : (m.executed (arithmetic x y 0x4)).registers =
      (m.registers.set x (m.registers.get x + m.registers.get y)).setFlag
        (255 < (m.registers.get x).toNat + (m.registers.get y).toNat) := by
    rw [executed, execute_sum]
    rfl
  have carry : ((m.executed (arithmetic x y 0x4)).registers.get .flag).toNat =
      if 255 < (m.registers.get x).toNat + (m.registers.get y).toNat then 1 else 0 := by
    rw [result, toNat_get_setFlag]
    split <;> simp [*]
  refine ⟨carry, fun notFlag => ?_, fun k other notFlag => ?_⟩
  · have bound := (m.registers.get x).toNat_lt
    have bound' := (m.registers.get y).toNat_lt
    have sum : (m.executed (arithmetic x y 0x4)).registers.get x =
        m.registers.get x + m.registers.get y := by
      rw [result, Registers.setFlag, get_set_of_ne _ _ (Ne.symm notFlag), get_set_self]
    rw [carry, sum, UInt8.toNat_add]
    split <;> omega
  · rw [executed, execute_sum]
    exact get_addRegisters (not_or.mpr ⟨other, notFlag⟩)

theorem reportThenResult_executed (m : Machine) (op : ReportFirst) (x y : Register) :
    ReportThenResult op x y m.registers (m.executed (arithmetic x y op.nibble)).registers := by
  have result := congrArg Prod.snd (m.execute_reportFirst op x y)
  have byte := ((m.registers.setFlag
    (op.report (m.registers.get x).toNat (m.registers.get y).toNat)).get x).toNat_lt
  refine ⟨m.registers.setFlag (op.report (m.registers.get x).toNat (m.registers.get y).toNat),
    toNat_get_setFlag _ _, fun k other => get_set_of_ne _ _ (Ne.symm other), ?_, fun k other => ?_⟩
  · have computed := congrArg (fun after => (after.registers.get x).toNat) result
    refine computed.trans ?_
    simp only [done, flagThen, setRegister, setFlag, get_set_self, UInt8.toNat_ofNat']
    exact Nat.mod_eq_of_lt (op.result_lt byte)
  · have kept := congrArg (fun after => after.registers.get k) result
    exact kept.trans (get_set_of_ne _ _ (Ne.symm other))

/-- What holds of the instructions where x, y and F are three registers. -/
structure OperandsApart (m : Machine) (x y : Register) : Prop where
  /-- 8xy4 undoes 8xy5. -/
  restored : ((m.executed (arithmetic x y 0x5)).executed (arithmetic x y 0x4)).registers.get x =
    m.registers.get x
  /-- It carries exactly if 8xy5 has borrowed. -/
  borrowed :
    ((m.executed (arithmetic x y 0x5)).executed (arithmetic x y 0x4)).registers.get .flag = 1 ↔
      m.registers.get x < m.registers.get y
  /-- 8xy5 and 8xy7 have opposite results. -/
  opposite : (((m.executed (arithmetic x y 0x5)).registers.get x).toNat +
    ((m.executed (arithmetic x y 0x7)).registers.get x).toNat) % 256 = 0
  /-- At most one of them reports. -/
  notBoth : ¬ ((m.executed (arithmetic x y 0x5)).registers.get .flag = 1 ∧
    (m.executed (arithmetic x y 0x7)).registers.get .flag = 1)
  /-- 8xy6 and 8xyE keep the bit that they shift out. -/
  halved : 2 * ((m.executed (arithmetic x y 0x6)).registers.get x).toNat +
    ((m.executed (arithmetic x y 0x6)).registers.get .flag).toNat = (m.registers.get x).toNat
  doubled : 256 * ((m.executed (arithmetic x y 0xE)).registers.get .flag).toNat +
    ((m.executed (arithmetic x y 0xE)).registers.get x).toNat = 2 * (m.registers.get x).toNat

section Apart

variable {m : Machine} {x y : Register} (other : x ≠ y) (notX : x ≠ .flag) (notY : y ≠ .flag)

include notX notY

/-- VF is one afterwards if the report is so. -/
theorem flag_executed_eq_one_iff (op : ReportFirst) :
    (m.executed (arithmetic x y op.nibble)).registers.get .flag = 1 ↔
      op.report (m.registers.get x).toNat (m.registers.get y).toNat = true := by
  have flag := ((reportThenResult_executed m op x y).apart notX notY).2.1
  rw [← UInt8.toNat_inj, flag]
  exact Bool.toNat_eq_one

include other

/-- The sum of the difference and Vy is Vx, or Vx and 256 if the difference has borrowed. -/
theorem sum_of_difference :
    ((m.executed (arithmetic x y 0x5)).executed (arithmetic x y 0x4)).registers.get x =
        m.registers.get x ∧
      (((m.executed (arithmetic x y 0x5)).executed (arithmetic x y 0x4)).registers.get .flag = 1 ↔
        m.registers.get x < m.registers.get y) := by
  have boundX := (m.registers.get x).toNat_lt
  have boundY := (m.registers.get y).toNat_lt
  obtain ⟨difference, _, kept⟩ := (reportThenResult_executed m .subtract x y).apart notX notY
  have operand := kept y (Ne.symm other) notY
  obtain ⟨carry, sum, _⟩ := sumAndCarry_executed (m.executed (arithmetic x y 0x5)) x y
  have summed := sum notX
  simp only [ReportFirst.result, ReportFirst.nibble] at difference operand
  rw [difference, operand] at carry summed
  constructor
  · rw [← UInt8.toNat_inj]
    split at carry <;> omega
  · rw [← UInt8.toNat_inj, UInt8.lt_iff_toNat_lt, carry]
    change (if _ then 1 else 0) = 1 ↔ _
    split <;> omega

theorem operandsApart : OperandsApart m x y := by
  have boundX := (m.registers.get x).toNat_lt
  have boundY := (m.registers.get y).toNat_lt
  obtain ⟨restored, borrowed⟩ := sum_of_difference (m := m) other notX notY
  have forwards := ((reportThenResult_executed m .subtract x y).apart notX notY).1
  have backwards := ((reportThenResult_executed m .subtractFrom x y).apart notX notY).1
  obtain ⟨half, low, _⟩ := (reportThenResult_executed m .shiftRight x y).apart notX notY
  obtain ⟨double, high, _⟩ := (reportThenResult_executed m .shiftLeft x y).apart notX notY
  simp only [ReportFirst.result, ReportFirst.nibble, ReportFirst.report, Nat.toNat_testBit]
    at forwards backwards half low double high
  exact {
    restored := restored
    borrowed := borrowed
    opposite := by omega
    notBoth := by
      rintro ⟨more, less⟩
      have above := (flag_executed_eq_one_iff notX notY .subtract).mp more
      have below := (flag_executed_eq_one_iff notX notY .subtractFrom).mp less
      simp only [ReportFirst.report, decide_eq_true_iff] at above below
      omega
    halved := by omega
    doubled := by omega }

end Apart

/-- For all registers and all operands, the same register twice and the flag included: 8xy4 leaves the
sum of the old Vx and Vy in Vx and then the carry in VF, and the four other instructions report on the
old Vx and Vy in VF and then compute Vx from what is in the registers by now. No other register
changes. -/
theorem flag_arithmetic (m : Machine) (x y : Register) :
    ((m.execute (.decode (arithmetic x y 0x4))).1 = .ok () ∧
      SumAndCarry x y m.registers (m.executed (arithmetic x y 0x4)).registers) ∧
    (∀ op : ReportFirst, (m.execute (.decode (arithmetic x y op.nibble))).1 = .ok () ∧
      ReportThenResult op x y m.registers (m.executed (arithmetic x y op.nibble)).registers) ∧
    (x ≠ y → x ≠ .flag → y ≠ .flag → OperandsApart m x y) := by
  refine ⟨⟨?_, sumAndCarry_executed m x y⟩, fun op => ⟨?_, reportThenResult_executed m op x y⟩,
    operandsApart⟩
  · rw [execute_sum, done]
  · rw [execute_reportFirst, done]

/-- V0 is 5 and V1 is 9, so that 5 - 9 borrows. -/
def smallerFirst : Machine :=
  { fresh ⟨Vector.replicate 8 0, 0⟩ with registers := Registers.zero.load [5, 9] }

theorem flag_arithmetic_smallerFirst :
    (0 : Register) ≠ 1 ∧ 0 ≠ Register.flag ∧ 1 ≠ Register.flag ∧
      ((smallerFirst.executed 0x8015).executed 0x8014).registers.get 0 = 5 ∧
      ((smallerFirst.executed 0x8015).executed 0x8014).registers.get .flag = 1 := by
  have apart : OperandsApart smallerFirst 0 1 :=
    (flag_arithmetic smallerFirst 0 1).2.2 (by decide) (by decide) (by decide)
  exact ⟨by decide, by decide, by decide, apart.restored, apart.borrowed.mpr (by decide)⟩

end Machine

end Chip8

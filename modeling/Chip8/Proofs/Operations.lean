import Chip8.Machine.Action
import Chip8.Proofs.Execution

/-!
# Operations with wide operands

An operation whose operands a word can spell does exactly what the instruction does
(`operate_widened`), so that executing words is a special case of executing operations
(`perform_execute`). `Overruns` says which operations have no result and `Declines` which fault;
neither of them changes anything. What is left to know about a machine after an operation comes from
three kinds of change (`operate_induction`), and whoever has shown something of all instructions adds
these.
-/

namespace Chip8.Machine

variable {m after : Machine} {op : Operation} {f : Fault}

/-! ## Operands that words spell -/

/-- A target of three nibbles and a byte make no more than a word. -/
theorem jumpOffset_address (m : Machine) (target : Address) :
    m.jumpOffset (UInt16.ofNat target) = some (m.execute (.jumpOffset target)) := by
  have offset := (m.registers.get .first).toNat_lt
  have fits : target.val + (m.registers.get .first).toNat < UInt16.size := by
    simp only [UInt16.size]
    omega
  unfold jumpOffset
  rw [toNat_ofNat_address, if_pos fits]
  rfl

theorem storeCount_register (m : Machine) (x : Register) :
    m.storeCount (x.val + 1) = some (m.execute (.storeRegisters x)) := by
  have few : x.val + 1 ≤ 16 := x.isLt
  by_cases cut : memorySize < m.index.toNat + (x.val + 1)
  · have refused : m.execute (.storeRegisters x) = (.error (Memory.blockFault m.index.toNat), m) :=
      execute_eq_error_iff.mpr ⟨⟨cut, rfl⟩, rfl⟩
    rw [storeCount, if_pos cut, refused]
  · rw [storeCount, if_neg cut, if_pos few]
    rfl

theorem loadCount_register (m : Machine) (x : Register) :
    m.loadCount (x.val + 1) = m.execute (.loadRegisters x) := by
  simp only [loadCount, execute, loadAtIndex]
  cases read : m.memory.block m.index.toNat (x.val + 1) with
  | error g => rfl
  | ok values =>
    have room : values.length ≤ 16 := Nat.le_trans (Nat.le_of_eq (Memory.length_block read)) x.isLt
    simp only [attempt, Registers.loadFrom_eq_load m.registers room]

theorem operate_widened (m : Machine) (i : Instruction) :
    m.operate i.widened = some (m.execute i) := by
  cases i
  case jumpOffset target => exact m.jumpOffset_address target
  case draw x y height => simp only [Instruction.widened, operate, toNat_ofNat_register, execute]
  case storeRegisters x =>
    simp only [Instruction.widened, operate, toNat_ofNat_register]
    exact m.storeCount_register x
  case loadRegisters x =>
    simp only [Instruction.widened, operate, toNat_ofNat_register]
    exact congrArg some (m.loadCount_register x)
  all_goals rfl

/-- To execute a word is to execute the operation that it spells. -/
theorem perform_execute (m : Machine) (word : UInt16) :
    m.perform (.execute word) = m.perform (.operate (Instruction.decode word).widened) := by
  simp only [perform, operate_widened]

/-! ## No result, and faults -/

/-- The operations that have no result. -/
def Overruns (m : Machine) : Operation → Prop
  | .jumpOffset target => UInt16.size ≤ target.toNat + (m.registers.get .first).toNat
  | .storeRegisters last =>
    16 ≤ last.toNat ∧ m.index.toNat + (last.toNat + 1) ≤ memorySize
  | _ => False

theorem operate_eq_none_iff : m.operate op = none ↔ m.Overruns op := by
  cases op
  case jumpOffset target => simp [operate, jumpOffset, Overruns]
  case storeRegisters last =>
    simp only [operate, storeCount, Overruns]
    split
    · rename_i cut
      simp [Nat.not_le.mpr cut]
    · rename_i room
      split
      · rename_i few
        simp [Nat.not_le.mpr few]
      · rename_i many
        simp [Nat.le_of_not_lt many, Nat.le_of_not_lt room]
  all_goals simp [operate, Overruns]

/-- When an operation faults, and with what. -/
def Declines (m : Machine) : Operation → Fault → Prop
  | .instruction i, f => m.Refuses i f
  | .call target, f => m.stack.depth = callLevels ∧ f = .stackOverflow target
  | .draw _ _ height, f =>
    memorySize < m.index.toNat + height.toNat ∧ f = Memory.blockFault m.index.toNat
  | .storeRegisters last, f | .loadRegisters last, f =>
    memorySize < m.index.toNat + (last.toNat + 1) ∧ f = Memory.blockFault m.index.toNat
  | _, _ => False

theorem storeCount_eq_error_iff {count : Nat} :
    m.storeCount count = some (.error f, after) ↔
      (memorySize < m.index.toNat + count ∧ f = Memory.blockFault m.index.toNat) ∧ after = m := by
  unfold storeCount
  split
  · rename_i cut
    simp [cut, eq_comm]
  · rename_i room
    split
    · rename_i few
      rw [Option.some_inj, storeAtIndex_eq_error_iff, m.registers.length_take_values few]
    · simp [room]

theorem loadCount_eq_error_iff {count : Nat} :
    m.loadCount count = (.error f, after) ↔
      (memorySize < m.index.toNat + count ∧ f = Memory.blockFault m.index.toNat) ∧ after = m := by
  rw [← Memory.block_eq_error_iff]
  exact attempt_done_eq_error_iff

/-- The operations that can fault, when they do, and that a fault changes nothing. -/
theorem operate_eq_error_iff :
    m.operate op = some (.error f, after) ↔ m.Declines op f ∧ after = m := by
  cases op
  case instruction i => exact Option.some_inj.trans execute_eq_error_iff
  case call => exact Option.some_inj.trans enterCall_eq_error_iff
  case draw => exact Option.some_inj.trans drawSprite_eq_error_iff
  case storeRegisters => exact storeCount_eq_error_iff
  case loadRegisters => exact Option.some_inj.trans loadCount_eq_error_iff
  case jumpOffset =>
    simp only [operate, jumpOffset, Declines]
    split <;> simp [done]
  all_goals simp [operate, done, Declines]

/-! ## What an operation leaves behind -/

/-- What holds after every instruction, after a change of the program counter, the index, the call
stack, the registers and memory, and after a sprite is painted, holds after every operation. -/
theorem operate_induction {P : Machine → Prop} {outcome : Except Fault Unit × Machine}
    (result : m.operate op = some outcome) (executed : ∀ i, P (m.execute i).2)
    (moved : ∀ memory registers pc index stack, P { m with memory, registers, pc, index, stack })
    (painted : ∀ registers x y sprite,
      P { m with registers, screen := (m.screen.paint x y sprite).1, redraw := true }) :
    P outcome.2 := by
  have here : P m := moved m.memory m.registers m.pc m.index m.stack
  cases op
  -- two operations need not have a result, so their tests are gone through first
  case storeRegisters last =>
    simp only [operate, storeCount] at result
    split at result
    · cases result
      exact here
    · split at result
      · cases result
        exact attempt_induction here fun memory => moved memory _ _ _ _
      · cases result
  case jumpOffset target =>
    simp only [operate, jumpOffset] at result
    split at result
    · cases result
      exact moved _ _ _ _ _
    · cases result
  all_goals cases result
  case instruction i => exact executed i
  case call target => exact attempt_induction here fun stack => moved _ _ target _ stack
  case draw x y height =>
    exact attempt_induction here fun sprite =>
      painted _ (m.registers.get x) (m.registers.get y) sprite
  case loadRegisters last => exact attempt_induction here fun values => moved _ _ _ _ _
  all_goals exact moved _ _ _ _ _

theorem perform_operate_induction {P : Machine → Prop} (executed : ∀ i, P (m.execute i).2)
    (moved : ∀ memory registers pc index stack, P { m with memory, registers, pc, index, stack })
    (painted : ∀ registers x y sprite,
      P { m with registers, screen := (m.screen.paint x y sprite).1, redraw := true }) :
    P (m.perform (.operate op)).2 := by
  simp only [perform]
  split
  · exact moved m.memory m.registers m.pc m.index m.stack
  · rename_i outcome result
    have later : P outcome.2 := operate_induction result executed moved painted
    rcases outcome with ⟨g | ⟨⟩, left⟩
    · exact later
    · exact later

end Chip8.Machine

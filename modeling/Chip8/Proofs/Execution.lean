import Chip8.Machine.Execute

/-!
# What an instruction can do

An instruction that faults leaves the machine exactly as it was, and it faults only for the reason
that its row of `Refuses` gives (`execute_eq_error_iff`). One that succeeds moves the program
counter and the call stack as its row of `Moves` says (`moves_of_execute`), and no instruction
stops the machine or starts it again (`halted_execute`).
-/

namespace Chip8.Machine

variable {m after : Machine} {f : Fault}

theorem attempt_eq_error_iff {α β : Type} {part : Except Fault α}
    {next : α → Except Fault β × Machine} :
    m.attempt part next = (.error f, after) ↔
      (part = .error f ∧ after = m) ∨ ∃ a, part = .ok a ∧ next a = (.error f, after) := by
  cases part with
  | error g => simp [attempt, eq_comm]
  | ok a => simp [attempt]

theorem attempt_eq_ok_iff {α β : Type} {part : Except Fault α} {b : β}
    {next : α → Except Fault β × Machine} :
    m.attempt part next = (.ok b, after) ↔ ∃ a, part = .ok a ∧ next a = (.ok b, after) := by
  cases part with
  | error g => simp [attempt]
  | ok a => simp [attempt]

/-- If nothing after the part can fault, the part alone decides, and the machine stays. -/
theorem attempt_eq_error_iff_part {α β : Type} {part : Except Fault α}
    {next : α → Except Fault β × Machine}
    (safe : ∀ a, part = .ok a → ∀ g later, next a ≠ (.error g, later)) :
    m.attempt part next = (.error f, after) ↔ part = .error f ∧ after = m := by
  rw [attempt_eq_error_iff, or_iff_left]
  rintro ⟨a, given, faulted⟩
  exact safe a given f after faulted

theorem attempt_done_eq_error_iff {α : Type} {part : Except Fault α} {next : α → Machine} :
    m.attempt part (fun a => done (next a)) = (.error f, after) ↔
      part = .error f ∧ after = m := by
  apply attempt_eq_error_iff_part
  intro a _ g later
  simp [done]

theorem attempt_done_eq_ok_iff {α : Type} {part : Except Fault α} {next : α → Machine} :
    m.attempt part (fun a => done (next a)) = (.ok (), after) ↔
      ∃ a, part = .ok a ∧ after = next a := by
  rw [attempt_eq_ok_iff]
  simp [done, eq_comm]

/-- What holds now and after what follows, holds whether the part gives or refuses. -/
theorem attempt_induction {α β : Type} {P : Machine → Prop} {part : Except Fault α}
    {next : α → Except Fault β × Machine} (here : P m) (later : ∀ a, P (next a).2) :
    P (m.attempt part next).2 := by
  cases part with
  | error g => exact here
  | ok a => exact later a

/-! ## Faults -/

/-- When an instruction faults, and with what. -/
def Refuses (m : Machine) : Instruction → Fault → Prop
  | .ret, f => m.stack.depth = 0 ∧ f = .stackUnderflow
  | .call target, f => m.stack.depth = callLevels ∧ f = .stackOverflow (UInt16.ofNat target)
  | .draw _ _ height, f =>
    memorySize < m.index.toNat + height ∧ f = Memory.blockFault m.index.toNat
  | .skipIfPressed x, f | .skipUnlessPressed x, f =>
    keyCount ≤ (m.registers.get x).toNat ∧ f = .keyOutOfRange (m.registers.get x)
  | .pointGlyph x, f => 0xF < (m.registers.get x).toNat ∧ f = .invalidGlyph (m.registers.get x)
  | .storeDecimal _, f => memorySize < m.index.toNat + 3 ∧ f = Memory.blockFault m.index.toNat
  | .storeRegisters x, f | .loadRegisters x, f =>
    memorySize < m.index.toNat + (x.val + 1) ∧ f = Memory.blockFault m.index.toNat
  | _, _ => False

theorem drawSprite_eq_error_iff {x y : Register} {height : Nat} :
    m.drawSprite x y height = (.error f, after) ↔
      (memorySize < m.index.toNat + height ∧ f = Memory.blockFault m.index.toNat) ∧ after = m := by
  rw [← Memory.block_eq_error_iff]
  exact attempt_done_eq_error_iff

theorem storeAtIndex_eq_error_iff {values : List UInt8} :
    m.storeAtIndex values = (.error f, after) ↔
      (memorySize < m.index.toNat + values.length ∧ f = Memory.blockFault m.index.toNat) ∧
        after = m := by
  rw [← Memory.setBlock_eq_error_iff]
  exact attempt_done_eq_error_iff

theorem loadAtIndex_eq_error_iff {x : Register} :
    m.loadAtIndex x = (.error f, after) ↔
      (memorySize < m.index.toNat + (x.val + 1) ∧ f = Memory.blockFault m.index.toNat) ∧
        after = m := by
  rw [← Memory.block_eq_error_iff]
  exact attempt_done_eq_error_iff

theorem leaveCall_eq_error_iff :
    m.leaveCall = (.error f, after) ↔ (m.stack.depth = 0 ∧ f = .stackUnderflow) ∧ after = m := by
  rw [← CallStack.pop_eq_error_iff]
  exact attempt_done_eq_error_iff

theorem enterCall_eq_error_iff {target : UInt16} :
    m.enterCall target = (.error f, after) ↔
      (m.stack.depth = callLevels ∧ f = .stackOverflow target) ∧ after = m := by
  rw [← CallStack.push_eq_error_iff]
  exact attempt_done_eq_error_iff

/-- The press is consumed after the skip, but by then the line is known to exist. -/
theorem skipIfPressed_eq_error_iff {x : Register} :
    m.skipIfPressed x = (.error f, after) ↔
      (keyCount ≤ (m.registers.get x).toNat ∧ f = .keyOutOfRange (m.registers.get x)) ∧
        after = m := by
  rw [← Keypad.isPressed_eq_error_iff]
  apply attempt_eq_error_iff_part
  intro pressed read g later
  obtain ⟨cleared, consumed⟩ := Keypad.clear_of_isPressed read
  cases pressed <;> simp [consumed, attempt, done]

theorem skipUnlessPressed_eq_error_iff {x : Register} :
    m.skipUnlessPressed x = (.error f, after) ↔
      (keyCount ≤ (m.registers.get x).toNat ∧ f = .keyOutOfRange (m.registers.get x)) ∧
        after = m := by
  rw [← Keypad.isPressed_eq_error_iff]
  apply attempt_eq_error_iff_part
  intro pressed read g later
  obtain ⟨cleared, consumed⟩ := Keypad.clear_of_isPressed read
  cases pressed <;> simp [consumed, attempt, done]

theorem pointGlyph_eq_error_iff {x : Register} :
    m.pointGlyph x = (.error f, after) ↔
      (0xF < (m.registers.get x).toNat ∧ f = .invalidGlyph (m.registers.get x)) ∧ after = m := by
  simp only [pointGlyph]
  split
  · rename_i digit
    simp [done, Nat.not_lt.mpr digit]
  · rename_i large
    simp [Nat.lt_of_not_le large, eq_comm]

/-- The instructions that can fault, when they do, and that a fault changes nothing. -/
theorem execute_eq_error_iff {i : Instruction} :
    m.execute i = (.error f, after) ↔ m.Refuses i f ∧ after = m := by
  cases i
  case ret => exact leaveCall_eq_error_iff
  case call => exact enterCall_eq_error_iff
  case draw => exact drawSprite_eq_error_iff
  case skipIfPressed => exact skipIfPressed_eq_error_iff
  case skipUnlessPressed => exact skipUnlessPressed_eq_error_iff
  case pointGlyph => exact pointGlyph_eq_error_iff
  case storeDecimal => exact storeAtIndex_eq_error_iff
  case storeRegisters x =>
    have stored : m.storeAtIndex (m.registers.upTo x) = (.error f, after) ↔ _ :=
      storeAtIndex_eq_error_iff
    rwa [Registers.length_upTo] at stored
  case loadRegisters => exact loadAtIndex_eq_error_iff
  all_goals simp [execute, done, Refuses]

/-! ## Control flow -/

/-- Where the program counter and the call stack are after an instruction that succeeds. A skip is
taken or not. -/
def Moves (m after : Machine) : Instruction → Prop
  | .ret => m.stack.pop = .ok (after.pc, after.stack)
  | .call target =>
    m.stack.push m.pc (UInt16.ofNat target) = .ok after.stack ∧ after.pc = UInt16.ofNat target
  | .jump target => after.stack = m.stack ∧ after.pc = UInt16.ofNat target
  | .jumpOffset target =>
    after.stack = m.stack ∧ after.pc = UInt16.ofNat target + (m.registers.get .first).toUInt16
  | .skipIfByte .. | .skipUnlessByte .. | .skipIfSame .. | .skipUnlessSame .. | .skipIfPressed _
  | .skipUnlessPressed _ => after.stack = m.stack ∧ (after.pc = m.pc ∨ after.pc = m.advance.pc)
  | .awaitKey _ => after.stack = m.stack ∧ (after.pc = m.pc ∨ after.pc = m.stepBack.pc)
  | _ => after.stack = m.stack ∧ after.pc = m.pc

theorem moves_skipWhen (condition : Bool) :
    (m.skipWhen condition).stack = m.stack ∧
      ((m.skipWhen condition).pc = m.pc ∨ (m.skipWhen condition).pc = m.advance.pc) := by
  cases condition
  · exact ⟨rfl, .inl rfl⟩
  · exact ⟨rfl, .inr rfl⟩

/-- The two ways in which a look at a key line can go: pressed, and then the press is consumed, or
released. -/
theorem press_cases {key : UInt8} {left right : Machine}
    (success : m.attempt (m.keypad.isPressed key) (fun pressed =>
      if pressed then left.attempt (m.keypad.clear key) fun keypad => done { left with keypad }
      else right.done) = (.ok (), after)) :
    (m.keypad.lines[key.toNat]? = some true ∧ ∃ inside : key.toNat < keyCount, after =
        { left with keypad := { m.keypad with lines := m.keypad.lines.set key.toNat false } }) ∨
      (m.keypad.lines[key.toNat]? = some false ∧ after = right) := by
  obtain ⟨pressed, read, rest⟩ := attempt_eq_ok_iff.mp success
  have line := Keypad.isPressed_eq_ok_iff.mp read
  cases pressed with
  | true =>
    obtain ⟨keypad, cleared, rfl⟩ := attempt_done_eq_ok_iff.mp rest
    obtain ⟨inside, rfl⟩ := Keypad.clear_eq_ok_iff.mp cleared
    exact .inl ⟨line, inside, rfl⟩
  | false =>
    cases rest
    exact .inr ⟨line, rfl⟩

theorem moves_skipIfPressed {x : Register} (success : m.skipIfPressed x = (.ok (), after)) :
    after.stack = m.stack ∧ (after.pc = m.pc ∨ after.pc = m.advance.pc) := by
  rcases press_cases success with ⟨_, _, rfl⟩ | ⟨_, rfl⟩
  · exact ⟨rfl, .inr rfl⟩
  · exact ⟨rfl, .inl rfl⟩

theorem moves_skipUnlessPressed {x : Register}
    (success : m.skipUnlessPressed x = (.ok (), after)) :
    after.stack = m.stack ∧ (after.pc = m.pc ∨ after.pc = m.advance.pc) := by
  rcases press_cases success with ⟨_, _, rfl⟩ | ⟨_, rfl⟩
  · exact ⟨rfl, .inl rfl⟩
  · exact ⟨rfl, .inr rfl⟩

theorem moves_awaitKey {x : Register} :
    (m.awaitKey x).stack = m.stack ∧
      ((m.awaitKey x).pc = m.pc ∨ (m.awaitKey x).pc = m.stepBack.pc) := by
  unfold awaitKey
  split
  · exact ⟨rfl, .inl rfl⟩
  · exact ⟨rfl, .inr rfl⟩

theorem moves_pointGlyph {x : Register} (success : m.pointGlyph x = (.ok (), after)) :
    after.stack = m.stack ∧ after.pc = m.pc := by
  simp only [pointGlyph] at success
  split at success
  · cases success
    exact ⟨rfl, rfl⟩
  · cases success

theorem moves_of_execute {i : Instruction} (success : m.execute i = (.ok (), after)) :
    m.Moves after i := by
  cases i
  case ret =>
    obtain ⟨⟨back, stack⟩, popped, rfl⟩ := attempt_done_eq_ok_iff.mp success
    exact popped
  case call target =>
    obtain ⟨stack, pushed, rfl⟩ := attempt_done_eq_ok_iff.mp success
    exact ⟨pushed, rfl⟩
  case draw | storeDecimal | storeRegisters | loadRegisters =>
    obtain ⟨given, _, rfl⟩ := attempt_done_eq_ok_iff.mp success
    exact ⟨rfl, rfl⟩
  case skipIfPressed => exact moves_skipIfPressed success
  case skipUnlessPressed => exact moves_skipUnlessPressed success
  case pointGlyph => exact moves_pointGlyph success
  all_goals cases success
  case skipIfByte | skipUnlessByte | skipIfSame | skipUnlessSame => exact moves_skipWhen _
  case awaitKey => exact moves_awaitKey
  all_goals exact ⟨rfl, rfl⟩

/-! ## The screen and the stopped flag -/

/-- The instructions that write to the screen. -/
def draws : Instruction → Bool
  | .clearScreen | .draw .. => true
  | _ => false

/-- The parts of a machine that instructions leave alone, unless they draw. -/
structure SameDisplay (m after : Machine) : Prop where
  screen : after.screen = m.screen
  redraw : after.redraw = m.redraw
  opcode : after.opcode = m.opcode
  halted : after.halted = m.halted

theorem SameDisplay.refl (m : Machine) : SameDisplay m m := ⟨rfl, rfl, rfl, rfl⟩

/-- An instruction that does not draw leaves the display alone, whether it faults or not. -/
theorem display_execute {i : Instruction} (silent : draws i = false) :
    SameDisplay m (m.execute i).2 := by
  cases i
  case clearScreen | draw => cases silent
  case ret | call | storeDecimal | storeRegisters | loadRegisters =>
    apply attempt_induction (SameDisplay.refl m)
    intro given
    simp only [done]
    exact ⟨rfl, rfl, rfl, rfl⟩
  case skipIfPressed | skipUnlessPressed =>
    apply attempt_induction (SameDisplay.refl m)
    intro pressed
    cases pressed
    · exact ⟨rfl, rfl, rfl, rfl⟩
    · exact attempt_induction (P := SameDisplay m) ⟨rfl, rfl, rfl, rfl⟩ fun keypad =>
        ⟨rfl, rfl, rfl, rfl⟩
  case skipIfByte | skipUnlessByte | skipIfSame | skipUnlessSame =>
    simp only [execute, done, skipWhen]
    split <;> exact ⟨rfl, rfl, rfl, rfl⟩
  case awaitKey =>
    simp only [execute, done, awaitKey]
    split <;> exact ⟨rfl, rfl, rfl, rfl⟩
  case pointGlyph =>
    simp only [execute, pointGlyph]
    split <;> exact ⟨rfl, rfl, rfl, rfl⟩
  all_goals exact ⟨rfl, rfl, rfl, rfl⟩

/-- Instructions neither stop the machine nor start it again, whether they fault or not. -/
theorem halted_execute (m : Machine) (i : Instruction) :
    (m.execute i).2.halted = m.halted := by
  cases drawing : draws i with
  | false => exact (display_execute drawing).halted
  | true =>
    cases i
    case clearScreen => rfl
    case draw =>
      apply attempt_induction (P := fun later => later.halted = m.halted) rfl
      intro sprite
      rfl
    all_goals cases drawing

/-- Instructions store no byte but zero and one on the screen, whether they fault or not. -/
theorem binary_execute (binary : m.screen.Binary) (i : Instruction) :
    (m.execute i).2.screen.Binary := by
  cases drawing : draws i with
  | false =>
    rw [(display_execute drawing).screen]
    exact binary
  | true =>
    cases i
    case clearScreen => exact Screen.binary_blank
    case draw x y height =>
      apply attempt_induction (P := fun later => later.screen.Binary) binary
      intro sprite
      exact Screen.paint_binary binary (m.registers.get x) (m.registers.get y) sprite
    all_goals cases drawing

end Chip8.Machine

import Chip8.Proofs.Execution

/-!
# The effect of an instruction, part by part

Where `execute` says for one instruction what becomes of all parts of the machine, the tables here
say for one part of the machine what becomes of it under all instructions. They are proved together,
once (`effect_of_execute`), and whoever needs to know what an instruction does to some part of the
machine reads it off there. The call stack is in the table of `Moves`.
-/

namespace Chip8

/-- What the innermost call comes back to. -/
def CallStack.top (s : CallStack) : UInt16 :=
  s.slots.get ⟨s.depth - 1, Nat.lt_of_le_of_lt (Nat.sub_le_sub_right s.depth_le 1) (by decide)⟩

theorem CallStack.top_eq_of_pop {s popped : CallStack} {back : UInt16}
    (h : s.pop = .ok (back, popped)) : s.top = back := by
  obtain ⟨depth, _, inside, rfl⟩ := slots_pop h
  have last : s.depth - 1 = popped.depth := by omega
  simp only [top, last]
  rfl

namespace Machine

variable {m after : Machine}

/-- The bytes that an instruction writes to memory, from the index on. -/
def stores (m : Machine) : Instruction → List UInt8
  | .storeDecimal x => decimalDigits (m.registers.get x)
  | .storeRegisters x => m.registers.upTo x
  | _ => []

/-- The registers that an instruction may change. -/
def Assigns : Instruction → Register → Prop
  | .setByte x _, r | .addByte x _, r | .copy x _, r | .or x _, r | .and x _, r | .xor x _, r
  | .random x _, r | .readDelay x, r | .awaitKey x, r => r = x
  | .add x _, r | .subtract x _, r | .shiftRight x, r | .subtractFrom x _, r | .shiftLeft x, r =>
    r = x ∨ r = .flag
  | .draw .., r => r = .flag
  | .loadRegisters x, r => r ≤ x
  | _, _ => False

/-- Whether the key line with this number is pressed; a line that does not exist is not. -/
def holds (m : Machine) (key : UInt8) : Prop := m.keypad.lines[key.toNat]? = some true

instance (m : Machine) (key : UInt8) : Decidable (m.holds key) :=
  inferInstanceAs (Decidable (_ = _))

/-- Where an instruction leaves the program counter. -/
def nextPc (m : Machine) : Instruction → UInt16
  | .ret => m.stack.top
  | .jump target | .call target => UInt16.ofNat target
  | .jumpOffset target => UInt16.ofNat target + (m.registers.get .first).toUInt16
  | .skipIfByte x kk => if m.registers.get x = kk then m.pc + 2 else m.pc
  | .skipUnlessByte x kk => if m.registers.get x = kk then m.pc else m.pc + 2
  | .skipIfSame x y => if m.registers.get x = m.registers.get y then m.pc + 2 else m.pc
  | .skipUnlessSame x y => if m.registers.get x = m.registers.get y then m.pc else m.pc + 2
  | .skipIfPressed x => if m.holds (m.registers.get x) then m.pc + 2 else m.pc
  | .skipUnlessPressed x => if m.holds (m.registers.get x) then m.pc else m.pc + 2
  | .awaitKey _ => if m.keypad.firstPressed = none then m.pc - 2 else m.pc
  | _ => m.pc

/-- Where an instruction leaves the index. -/
def nextIndex (m : Machine) : Instruction → UInt16
  | .setIndex target => UInt16.ofNat target
  | .addIndex x => m.index + (m.registers.get x).toUInt16
  | .pointGlyph x =>
    UInt16.ofNat (ImageKind.font.start + (m.registers.get x).toNat * Font.glyphSize)
  | _ => m.index

/-- The value that an instruction gives to the delay timer, or the one that it has. -/
def nextDelay (m : Machine) : Instruction → Timer
  | .setDelay x => ⟨m.registers.get x⟩
  | _ => m.delay

/-- The value that an instruction gives to the sound timer, or the one that it has. -/
def nextSound (m : Machine) : Instruction → Timer
  | .setSound x => ⟨m.registers.get x⟩
  | _ => m.sound

def nextGenerator (m : Machine) : Instruction → Generator
  | .random .. => m.generator.draw.2
  | _ => m.generator

/-- An instruction leaves the keypad alone, or it consumes the press of the line that its register
names. -/
def Consumes (m : Machine) (i : Instruction) (after : Keypad) : Prop :=
  after = m.keypad ∨ ∃ x, (i = .skipIfPressed x ∨ i = .skipUnlessPressed x) ∧
    ∃ inside : (m.registers.get x).toNat < keyCount,
      m.keypad.lines[(m.registers.get x).toNat] = true ∧
        after = { m.keypad with lines := m.keypad.lines.set (m.registers.get x).toNat false }

theorem Consumes.pending {i : Instruction} {after : Keypad} (consumes : m.Consumes i after) :
    after.pending = m.keypad.pending := by
  rcases consumes with rfl | ⟨_, _, _, _, rfl⟩ <;> rfl

/-- What an instruction that succeeds makes of the parts of a machine. -/
structure Effect (m : Machine) (i : Instruction) (after : Machine) : Prop where
  memory : after.memory = m.memory.write m.index.toNat (m.stores i) := by rfl
  registers : ∀ r, ¬ Assigns i r → after.registers.get r = m.registers.get r := by
    exact fun _ _ => rfl
  pc : after.pc = m.nextPc i := by rfl
  index : after.index = m.nextIndex i := by rfl
  screen : draws i = false → after.screen = m.screen := by exact fun _ => rfl
  redraw : after.redraw = (draws i || m.redraw) := by rfl
  keypad : m.Consumes i after.keypad := by exact .inl rfl
  delay : after.delay = m.nextDelay i := by rfl
  sound : after.sound = m.nextSound i := by rfl
  generator : after.generator = m.nextGenerator i := by rfl
  opcode : after.opcode = m.opcode := by rfl

/-- Setting the flag and one register, in either order, leaves the others alone. -/
theorem get_addRegisters {x y r : Register} (other : ¬ (r = x ∨ r = .flag)) :
    (m.addRegisters x y).registers.get r = m.registers.get r := by
  obtain ⟨notX, notFlag⟩ := not_or.mp other
  exact (Registers.get_set_of_ne _ _ (Ne.symm notFlag)).trans
    (Registers.get_set_of_ne _ _ (Ne.symm notX))

theorem get_flagThen {x r : Register} {flag : Bool} {result : Registers → UInt8}
    (other : ¬ (r = x ∨ r = .flag)) :
    (m.flagThen x flag result).registers.get r = m.registers.get r := by
  obtain ⟨notX, notFlag⟩ := not_or.mp other
  exact (Registers.get_set_of_ne _ _ (Ne.symm notX)).trans
    (Registers.get_set_of_ne _ _ (Ne.symm notFlag))

theorem effect_skipIfPressed {x : Register} (success : m.skipIfPressed x = (.ok (), after)) :
    Effect m (.skipIfPressed x) after := by
  rcases press_cases success with ⟨line, inside, rfl⟩ | ⟨line, rfl⟩
  · exact {
      pc := (if_pos line).symm
      keypad := .inr ⟨x, .inl rfl, inside, (Vector.getElem?_eq_some_iff.mp line).2, rfl⟩ }
  · exact { pc := (if_neg (by simp [holds, line])).symm }

theorem effect_skipUnlessPressed {x : Register}
    (success : m.skipUnlessPressed x = (.ok (), after)) :
    Effect m (.skipUnlessPressed x) after := by
  rcases press_cases success with ⟨line, inside, rfl⟩ | ⟨line, rfl⟩
  · exact {
      pc := (if_pos line).symm
      keypad := .inr ⟨x, .inr rfl, inside, (Vector.getElem?_eq_some_iff.mp line).2, rfl⟩ }
  · exact { pc := (if_neg (by simp [holds, line])).symm }

theorem effect_awaitKey {x : Register} : Effect m (.awaitKey x) (m.awaitKey x) := by
  unfold awaitKey
  split
  · rename_i key found
    exact {
      registers := fun r other => Registers.get_set_of_ne _ _ (Ne.symm other)
      pc := (if_neg (by simp [found])).symm }
  · rename_i none
    exact { pc := (if_pos none).symm }

theorem effect_pointGlyph {x : Register} (success : m.pointGlyph x = (.ok (), after)) :
    Effect m (.pointGlyph x) after := by
  simp only [pointGlyph] at success
  split at success
  · cases success
    exact {}
  · cases success

theorem effect_of_execute {i : Instruction} (success : m.execute i = (.ok (), after)) :
    Effect m i after := by
  cases i
  case ret =>
    obtain ⟨⟨back, stack⟩, popped, rfl⟩ := attempt_done_eq_ok_iff.mp success
    exact { pc := (CallStack.top_eq_of_pop popped).symm }
  case call target =>
    obtain ⟨stack, pushed, rfl⟩ := attempt_done_eq_ok_iff.mp success
    exact {}
  case draw x y height =>
    obtain ⟨sprite, read, rfl⟩ := attempt_done_eq_ok_iff.mp success
    exact {
      registers := fun r other => Registers.get_set_of_ne _ _ (Ne.symm other)
      screen := fun silent => by cases silent }
  case storeDecimal | storeRegisters =>
    obtain ⟨memory, written, rfl⟩ := attempt_done_eq_ok_iff.mp success
    exact { memory := (Memory.setBlock_eq_ok_iff.mp written).2 }
  case loadRegisters x =>
    obtain ⟨values, read, rfl⟩ := attempt_done_eq_ok_iff.mp success
    have length := Memory.length_block read
    refine { registers := fun r above => ?_ }
    have outside : values.length ≤ r.val := length ▸ Nat.lt_of_not_le above
    rw [Registers.get_load, List.getElem?_eq_none outside, Option.getD_none]
  case skipIfPressed => exact effect_skipIfPressed success
  case skipUnlessPressed => exact effect_skipUnlessPressed success
  case pointGlyph => exact effect_pointGlyph success
  all_goals cases success
  case awaitKey => exact effect_awaitKey
  case skipIfByte | skipUnlessByte | skipIfSame | skipUnlessSame =>
    simp only [skipWhen]
    split
    · rename_i taken
      simp only [beq_iff_eq, bne_iff_ne, ne_eq] at taken
      exact { pc := by simp [nextPc, taken, advance] }
    · rename_i stays
      simp only [beq_iff_eq, bne_iff_ne, ne_eq, Decidable.not_not] at stays
      exact { pc := by simp [nextPc, stays] }
  case setByte | addByte | copy | or | and | xor | random | readDelay =>
    exact { registers := fun r other => Registers.get_set_of_ne _ _ (Ne.symm other) }
  case add => exact { registers := fun r other => get_addRegisters other }
  case subtract | shiftRight | subtractFrom | shiftLeft =>
    exact { registers := fun r other => get_flagThen other }
  case clearScreen => exact { screen := fun silent => by cases silent }
  all_goals exact {}

end Machine

end Chip8

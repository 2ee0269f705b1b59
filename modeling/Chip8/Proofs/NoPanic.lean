import Chip8.Machine.Cycle
import Chip8.Proofs.Checked
import Chip8.Proofs.Faults
import Chip8.Proofs.Operations

/-!
# Cycles do not panic

The machine as it is stored, with a call stack whose depth is any byte, executes instructions and
runs cycles in checked operations. From every such machine whose depth is one of the sixteen levels,
each word and each cycle goes through without a panic, and what comes out is what the plain
definitions say, at a depth that is again one of the levels (`cycle_never_panics`). Checks that look
at an operand rest on its width, which the decoder has seen to, and an operation with wider operands
panics exactly if it has no result (`operate_panics_iff`); those of the call stack rest on the depth,
and a return is where a depth beyond the levels shows (`execute_ret_panics_iff`).
-/

namespace Chip8

open Checked

/-- A machine as it is stored. -/
structure RawMachine where
  memory : Memory
  registers : Registers
  pc : UInt16
  index : UInt16
  stack : RawStack
  screen : Screen
  keypad : Keypad
  delay : Timer
  sound : Timer
  generator : Generator
  opcode : UInt16
  redraw : Bool
  halted : Bool

/-- What a step answers and the machine that it leaves behind. -/
abbrev Outcome (α : Type) := Except Fault α × RawMachine

namespace RawMachine

def advance (s : RawMachine) : RawMachine := { s with pc := s.pc + 2 }

def stepBack (s : RawMachine) : RawMachine := { s with pc := s.pc - 2 }

def drainKeys (s : RawMachine) : RawMachine := { s with keypad := s.keypad.drain }

def tickTimers (s : RawMachine) : RawMachine :=
  { s with delay := s.delay.tick, sound := s.sound.tick }

def done (s : RawMachine) : Except Panic (Outcome Unit) := return (.ok (), s)

/-- Goes on with what a part of the machine gives, or ends with the fault of its refusal. -/
def attempt {α β : Type} (s : RawMachine) (part : Except Panic (Except Fault α))
    (next : α → Except Panic (Outcome β)) : Except Panic (Outcome β) := do
  match ← part with
  | .error fault => return (.error fault, s)
  | .ok a => next a

def register (s : RawMachine) (number : Nat) : Except Panic UInt8 := s.registers.getChecked number

def setRegister (s : RawMachine) (number : Nat) (value : UInt8) : Except Panic RawMachine :=
  return { s with registers := ← s.registers.setChecked number value }

def setFlag (s : RawMachine) (on : Bool) : Except Panic RawMachine :=
  s.setRegister Register.flag (if on then 1 else 0)

def skipWhen (s : RawMachine) (condition : Except Panic Bool) : Except Panic (Outcome Unit) := do
  if ← condition then s.advance.done else s.done

/-- Vx becomes the value. -/
def assign (s : RawMachine) (x : Nat) (value : Except Panic UInt8) :
    Except Panic (Outcome Unit) := do
  (← s.setRegister x (← value)).done

/-- The sum of two bytes is made at twice their width. -/
def addRegisters (s : RawMachine) (x y : Nat) : Except Panic (Outcome Unit) := do
  let total ← sum UInt16.size (← s.register x).toNat (← s.register y).toNat
  let summed ← s.setRegister x (UInt8.ofNat total)
  (← summed.setFlag (255 < total)).done

/-- Sets VF first and then Vx to a result computed from the registers that hold the new flag. -/
def flagThen (s : RawMachine) (x : Nat) (flag : Except Panic Bool)
    (result : RawMachine → Except Panic UInt8) : Except Panic (Outcome Unit) := do
  let flagged ← s.setFlag (← flag)
  flagged.assign x (result flagged)

def jumpOffset (s : RawMachine) (target : Nat) : Except Panic (Outcome Unit) := do
  let address ← sum UInt16.size target (← s.register Register.first).toNat
  done { s with pc := UInt16.ofNat address }

def drawSprite (s : RawMachine) (x y height : Nat) : Except Panic (Outcome Unit) := do
  let vx ← s.register x
  let vy ← s.register y
  s.attempt (s.memory.blockChecked s.index.toNat height) fun sprite => do
    let (screen, collided) ← s.screen.paintChecked vx vy sprite
    done { ← s.setFlag collided with screen, redraw := true }

def skipIfPressed (s : RawMachine) (x : Nat) : Except Panic (Outcome Unit) := do
  let key ← s.register x
  s.attempt (return s.keypad.isPressed key) fun pressed =>
    if pressed then
      s.advance.attempt (return s.keypad.clear key) fun keypad => done { s.advance with keypad }
    else s.done

def skipUnlessPressed (s : RawMachine) (x : Nat) : Except Panic (Outcome Unit) := do
  let key ← s.register x
  s.attempt (return s.keypad.isPressed key) fun pressed =>
    if pressed then s.attempt (return s.keypad.clear key) fun keypad => done { s with keypad }
    else s.advance.done

def awaitKey (s : RawMachine) (x : Nat) : Except Panic (Outcome Unit) :=
  match s.keypad.firstPressed with
  | some key => s.assign x (return UInt8.ofNat key)
  | none => s.stepBack.done

/-- The address of a glyph is computed at its own width, product and sum. -/
def pointGlyph (s : RawMachine) (x : Nat) : Except Panic (Outcome Unit) := do
  let digit ← s.register x
  if digit.toNat ≤ 0xF then
    let offset ← product UInt16.size digit.toNat Font.glyphSize
    let address ← sum UInt16.size ImageKind.font.start offset
    done { s with index := UInt16.ofNat address }
  else return (.error (.invalidGlyph digit), s)

def storeDecimal (s : RawMachine) (x : Nat) : Except Panic (Outcome Unit) := do
  let digits := Machine.decimalDigits (← s.register x)
  s.attempt (s.memory.setBlockChecked s.index.toNat 3 (return digits)) fun memory =>
    done { s with memory }

def storeRegisters (s : RawMachine) (x : Nat) : Except Panic (Outcome Unit) := do
  let count ← sum wordSize x 1
  s.attempt (s.memory.setBlockChecked s.index.toNat count (s.registers.upToChecked count))
    fun memory => done { s with memory }

def loadRegisters (s : RawMachine) (x : Nat) : Except Panic (Outcome Unit) := do
  let count ← sum wordSize x 1
  s.attempt (s.memory.blockChecked s.index.toNat count) fun values => do
    done { s with registers := ← s.registers.loadChecked 0 values }

def leaveCall (s : RawMachine) : Except Panic (Outcome Unit) :=
  s.attempt s.stack.pop fun (back, stack) => done { s with stack, pc := back }

def enterCall (s : RawMachine) (target : UInt16) : Except Panic (Outcome Unit) :=
  s.attempt (s.stack.push s.pc target) fun stack => done { s with stack, pc := target }

/-- The effect of one instruction. -/
def execute (s : RawMachine) : Instruction → Except Panic (Outcome Unit)
  | .clearScreen => done { s with screen := .blank, redraw := true }
  | .ret => s.leaveCall
  | .jump target => done { s with pc := UInt16.ofNat target }
  | .call target => s.enterCall (UInt16.ofNat target)
  | .skipIfByte x kk => s.skipWhen (return (← s.register x) == kk)
  | .skipUnlessByte x kk => s.skipWhen (return (← s.register x) != kk)
  | .skipIfSame x y => s.skipWhen (return (← s.register x) == (← s.register y))
  | .skipUnlessSame x y => s.skipWhen (return (← s.register x) != (← s.register y))
  | .setByte x kk => s.assign x (return kk)
  | .addByte x kk => s.assign x (return (← s.register x) + kk)
  | .copy x y => s.assign x (s.register y)
  | .or x y => s.assign x (return (← s.register x) ||| (← s.register y))
  | .and x y => s.assign x (return (← s.register x) &&& (← s.register y))
  | .xor x y => s.assign x (return (← s.register x) ^^^ (← s.register y))
  | .add x y => s.addRegisters x y
  | .subtract x y =>
    s.flagThen x (return (← s.register y) < (← s.register x)) fun s =>
      return (← s.register x) - (← s.register y)
  | .shiftRight x =>
    s.flagThen x (return (← s.register x) &&& 1 == 1) fun s => do shiftRight (← s.register x) 1
  | .subtractFrom x y =>
    s.flagThen x (return (← s.register x) < (← s.register y)) fun s =>
      return (← s.register y) - (← s.register x)
  | .shiftLeft x =>
    s.flagThen x (return (← s.register x) &&& 0x80 != 0) fun s => return (← s.register x) <<< 1
  | .setIndex target => done { s with index := UInt16.ofNat target }
  | .jumpOffset target => s.jumpOffset target
  | .random x kk =>
    let (byte, generator) := s.generator.draw
    { s with generator }.assign x (return byte &&& kk)
  | .draw x y height => s.drawSprite x y height
  | .skipIfPressed x => s.skipIfPressed x
  | .skipUnlessPressed x => s.skipUnlessPressed x
  | .readDelay x => s.assign x (return s.delay.count)
  | .awaitKey x => s.awaitKey x
  | .setDelay x => do done { s with delay := ⟨← s.register x⟩ }
  | .setSound x => do done { s with sound := ⟨← s.register x⟩ }
  | .addIndex x => do done { s with index := s.index + (← s.register x).toUInt16 }
  | .pointGlyph x => s.pointGlyph x
  | .storeDecimal x => s.storeDecimal x
  | .storeRegisters x => s.storeRegisters x
  | .loadRegisters x => s.loadRegisters x
  | .unknown _ => s.done

/-- The effect of an operation. -/
def operate (s : RawMachine) : Operation → Except Panic (Outcome Unit)
  | .instruction i => s.execute i
  | .jump target => done { s with pc := target }
  | .call target => s.enterCall target
  | .setIndex target => done { s with index := target }
  | .jumpOffset target => s.jumpOffset target.toNat
  | .draw x y height => s.drawSprite x y height.toNat
  | .storeRegisters last => s.storeRegisters last.toNat
  | .loadRegisters last => s.loadRegisters last.toNat

def nextWord (s : RawMachine) : Except Panic (Outcome UInt16) :=
  s.attempt (s.memory.wordChecked s.pc.toNat) fun w => return (.ok w, s.advance)

def fetch (s : RawMachine) : Except Panic (Outcome Instruction) := do
  match ← s.nextWord with
  | (.error fault, s) => return (.error fault, s)
  | (.ok w, s) => return (.ok (.decode w), { s with opcode := w })

def dispatch (s : RawMachine) : Except Panic (Outcome Unit) := do
  match ← s.fetch with
  | (.error fault, s) => return (.error fault, s)
  | (.ok instruction, s) => s.execute instruction

def cycle (s : RawMachine) : Except Panic (Outcome Unit) := do
  if s.halted then return (.error .halted, s)
  else
    match ← s.drainKeys.dispatch with
    | (.error fault, s) => return (.error fault, { s with halted := true })
    | (.ok (), s) => return (.ok (), s.tickTimers)

end RawMachine

namespace Machine

variable {m : Machine}

/-- How a machine is stored. -/
def raw (m : Machine) : RawMachine where
  memory := m.memory
  registers := m.registers
  pc := m.pc
  index := m.index
  stack := m.stack.raw
  screen := m.screen
  keypad := m.keypad
  delay := m.delay
  sound := m.sound
  generator := m.generator
  opcode := m.opcode
  redraw := m.redraw
  halted := m.halted

/-- The outcome of a step, with the machine as it is stored. -/
def rawOutcome {α : Type} (outcome : Except Fault α × Machine) : Outcome α :=
  (outcome.1, outcome.2.raw)

/-- The outcome of a step that may have none, and the panic in its place. -/
def rawResult (p : Panic) : Option (Except Fault Unit × Machine) → Except Panic (Outcome Unit)
  | some outcome => .ok (rawOutcome outcome)
  | none => .error p

/-! ## Steps -/

theorem register_raw (m : Machine) (x : Register) :
    m.raw.register x = .ok (m.registers.get x) := Registers.getChecked_eq m.registers x

theorem setRegister_raw (m : Machine) (x : Register) (value : UInt8) :
    m.raw.setRegister x value = .ok (m.setRegister x value).raw := by
  have set := Registers.setChecked_eq m.registers x value
  simp only [RawMachine.setRegister, raw, set]
  rfl

theorem setFlag_raw (m : Machine) (on : Bool) : m.raw.setFlag on = .ok (m.setFlag on).raw :=
  setRegister_raw m .flag (if on then 1 else 0)

theorem assign_raw {x : Register} {value : UInt8} {checked : Except Panic UInt8}
    (given : checked = .ok value) :
    m.raw.assign x checked = .ok (rawOutcome (done (m.setRegister x value))) := by
  subst given
  simp only [RawMachine.assign, bind, Except.bind, setRegister_raw]
  rfl

theorem skipWhen_raw {condition : Bool} {checked : Except Panic Bool}
    (given : checked = .ok condition) :
    m.raw.skipWhen checked = .ok (rawOutcome (done (m.skipWhen condition))) := by
  subst given
  cases condition <;> rfl

theorem flagThen_raw {x : Register} {flag : Bool} {checked : Except Panic Bool}
    {result : Registers → UInt8} {result' : RawMachine → Except Panic UInt8}
    (given : checked = .ok flag)
    (later : ∀ flagged : Machine, result' flagged.raw = .ok (result flagged.registers)) :
    m.raw.flagThen x checked result' = .ok (rawOutcome (done (m.flagThen x flag result))) := by
  subst given
  simp only [RawMachine.flagThen, bind, Except.bind, setFlag_raw]
  exact assign_raw (later (m.setFlag flag))

/-- A part that the checked operations answer alike is followed alike. -/
theorem attempt_raw {α α' β : Type} {part : Except Fault α} {f : α → α'}
    {checked : Except Panic (Except Fault α')} {next : α → Except Fault β × Machine}
    {next' : α' → Except Panic (Outcome β)} (given : checked = .ok (part.map f))
    (later : ∀ a, part = .ok a → next' (f a) = .ok (rawOutcome (next a))) :
    m.raw.attempt checked next' = .ok (rawOutcome (m.attempt part next)) := by
  subst given
  cases part with
  | error fault => rfl
  | ok a => exact later a rfl

/-- The same for a part that is stored as it is. -/
theorem attempt_raw_id {α β : Type} {part : Except Fault α}
    {checked : Except Panic (Except Fault α)} {next : α → Except Fault β × Machine}
    {next' : α → Except Panic (Outcome β)} (given : checked = .ok part)
    (later : ∀ a, part = .ok a → next' a = .ok (rawOutcome (next a))) :
    m.raw.attempt checked next' = .ok (rawOutcome (m.attempt part next)) :=
  attempt_raw (f := id) (by rw [Except.map_id]; exact given) later

/-! ## Instructions -/

theorem addRegisters_raw (m : Machine) (x y : Register) :
    m.raw.addRegisters x y = .ok (rawOutcome (done (m.addRegisters x y))) := by
  have vx := (m.registers.get x).toNat_lt
  have vy := (m.registers.get y).toNat_lt
  have fits : (m.registers.get x).toNat + (m.registers.get y).toNat < UInt16.size := by
    simp only [UInt16.size]
    omega
  have low : UInt8.ofNat ((m.registers.get x).toNat + (m.registers.get y).toNat) =
      m.registers.get x + m.registers.get y := by
    rw [UInt8.ofNat_add, UInt8.ofNat_toNat, UInt8.ofNat_toNat]
  simp only [RawMachine.addRegisters, register_raw, bind, Except.bind, sum_eq fits, low,
    setRegister_raw, setFlag_raw]
  rfl

theorem jumpOffset_raw (m : Machine) (target : UInt16) :
    m.raw.jumpOffset target.toNat = rawResult .overflow (m.jumpOffset target) := by
  simp only [RawMachine.jumpOffset, jumpOffset, register_raw, bind, Except.bind]
  by_cases fits : target.toNat + (m.registers.get .first).toNat < UInt16.size
  · have wide : UInt16.ofNat (target.toNat + (m.registers.get .first).toNat) =
        target + (m.registers.get .first).toUInt16 := by
      rw [UInt16.ofNat_add, UInt16.ofNat_toNat, UInt16.ofNat_uInt8ToNat]
    simp only [sum_eq fits, wide, if_pos fits]
    rfl
  · simp only [sum, if_neg fits]
    rfl

theorem pointGlyph_raw (m : Machine) (x : Register) :
    m.raw.pointGlyph x = .ok (rawOutcome (m.pointGlyph x)) := by
  simp only [RawMachine.pointGlyph, pointGlyph, register_raw, bind, Except.bind]
  split
  · rename_i digit
    have scaled : (m.registers.get x).toNat * Font.glyphSize < UInt16.size := by
      simp only [UInt16.size, Font.glyphSize]
      omega
    have fits :
        ImageKind.font.start + (m.registers.get x).toNat * Font.glyphSize < UInt16.size := by
      simp only [UInt16.size, Font.glyphSize, ImageKind.start]
      omega
    rw [product_eq scaled]
    simp only [sum_eq fits]
    rfl
  · rfl

/-- Wherever the index points, the end of a short block is a machine word. -/
theorem index_lt_wordSize (m : Machine) {len : Nat} (short : len ≤ 256) :
    m.index.toNat + len < wordSize := by
  have bound := m.index.toNat_lt
  simp only [wordSize, UInt64.size]
  omega

theorem drawSprite_raw (m : Machine) (x y : Register) {height : Nat} (short : height ≤ 256) :
    m.raw.drawSprite x y height = .ok (rawOutcome (m.drawSprite x y height)) := by
  simp only [RawMachine.drawSprite, register_raw, bind, Except.bind]
  refine attempt_raw_id (Memory.blockChecked_eq (m.index_lt_wordSize short)) fun sprite read => ?_
  have rows : sprite.length ≤ 256 := Nat.le_trans (Nat.le_of_eq (Memory.length_block read)) short
  have painted : m.raw.screen.paintChecked (m.registers.get x) (m.registers.get y) sprite =
      .ok (m.screen.paint (m.registers.get x) (m.registers.get y) sprite) :=
    Screen.paintChecked_eq m.screen _ _ rows
  simp only [painted, setFlag_raw]
  rfl

theorem skipIfPressed_raw (m : Machine) (x : Register) :
    m.raw.skipIfPressed x = .ok (rawOutcome (m.skipIfPressed x)) := by
  simp only [RawMachine.skipIfPressed, register_raw, bind, Except.bind]
  refine attempt_raw_id rfl fun pressed _ => ?_
  cases pressed with
  | true => exact attempt_raw_id (m := m.advance) rfl fun keypad _ => rfl
  | false => rfl

theorem skipUnlessPressed_raw (m : Machine) (x : Register) :
    m.raw.skipUnlessPressed x = .ok (rawOutcome (m.skipUnlessPressed x)) := by
  simp only [RawMachine.skipUnlessPressed, register_raw, bind, Except.bind]
  refine attempt_raw_id rfl fun pressed _ => ?_
  cases pressed with
  | true => exact attempt_raw_id rfl fun keypad _ => rfl
  | false => rfl

theorem awaitKey_raw (m : Machine) (x : Register) :
    m.raw.awaitKey x = .ok (rawOutcome (done (m.awaitKey x))) := by
  have same : m.raw.keypad.firstPressed = m.keypad.firstPressed := rfl
  rw [RawMachine.awaitKey, awaitKey, same]
  cases m.keypad.firstPressed with
  | some key => exact assign_raw rfl
  | none => rfl

theorem storeDecimal_raw (m : Machine) (x : Register) :
    m.raw.storeDecimal x = .ok (rawOutcome (m.execute (.storeDecimal x))) := by
  simp only [RawMachine.storeDecimal, register_raw, bind, Except.bind]
  refine attempt_raw_id (Memory.setBlockChecked_eq rfl (m.index_lt_wordSize (by decide))) ?_
  exact fun memory _ => rfl

theorem sum_one {last : Nat} (byte : last < 256) : sum wordSize last 1 = .ok (last + 1) := by
  refine sum_eq ?_
  simp only [wordSize, UInt64.size]
  omega

/-- The room in memory is looked at first, so the registers are not asked for if there is none. -/
theorem storeRegisters_raw (m : Machine) {last : Nat} (byte : last < 256) :
    m.raw.storeRegisters last = rawResult .index (m.storeCount (last + 1)) := by
  simp only [RawMachine.storeRegisters, sum_one byte, bind, Except.bind]
  have small : m.index.toNat + (last + 1) < wordSize := m.index_lt_wordSize byte
  by_cases cut : memorySize < m.index.toNat + (last + 1)
  · have refused := m.memory.setBlockChecked_of_cut cut small (m.registers.upToChecked (last + 1))
    rw [storeCount, if_pos cut]
    simp only [raw, refused]
    rfl
  · rw [storeCount, if_neg cut]
    by_cases few : last + 1 ≤ 16
    · have values : m.raw.registers.upToChecked (last + 1) =
          .ok (m.registers.values.toList.take (last + 1)) := if_pos few
      have length := m.registers.length_take_values few
      rw [if_pos few, values]
      exact attempt_raw_id (Memory.setBlockChecked_eq length small) fun memory _ => rfl
    · have values : m.raw.registers.upToChecked (last + 1) = .error .index := if_neg few
      have panicked : m.raw.memory.setBlockChecked m.raw.index.toNat (last + 1) (.error .index) =
          .error .index := Memory.setBlockChecked_of_panic (Nat.le_of_not_lt cut) small
      rw [if_neg few, values]
      simp only [panicked]
      rfl

theorem loadRegisters_raw (m : Machine) {last : Nat} (byte : last < 256) :
    m.raw.loadRegisters last = .ok (rawOutcome (m.loadCount (last + 1))) := by
  simp only [RawMachine.loadRegisters, sum_one byte, bind, Except.bind]
  refine attempt_raw_id (Memory.blockChecked_eq (m.index_lt_wordSize byte)) fun values _ => ?_
  have loaded : m.raw.registers.loadChecked 0 values = .ok (m.registers.loadFrom 0 values) :=
    Registers.loadChecked_eq_loadFrom 0 m.registers values
  simp only [loaded]
  rfl

theorem leaveCall_raw (m : Machine) : m.raw.leaveCall = .ok (rawOutcome m.leaveCall) :=
  attempt_raw (CallStack.pop_raw m.stack) fun _ _ => rfl

theorem enterCall_raw (m : Machine) (target : UInt16) :
    m.raw.enterCall target = .ok (rawOutcome (m.enterCall target)) :=
  attempt_raw (CallStack.push_raw m.stack m.pc target) fun _ _ => rfl

theorem execute_raw (m : Machine) (i : Instruction) :
    m.raw.execute i = .ok (rawOutcome (m.execute i)) := by
  cases i
  case ret => exact leaveCall_raw m
  case call target => exact enterCall_raw m (UInt16.ofNat target)
  case skipIfByte | skipUnlessByte | skipIfSame | skipUnlessSame =>
    refine skipWhen_raw ?_
    simp only [register_raw]
    rfl
  case setByte | readDelay => exact assign_raw rfl
  case copy x y => exact assign_raw (register_raw m y)
  case addByte | or | and | xor =>
    refine assign_raw ?_
    simp only [register_raw]
    rfl
  case add x y => exact addRegisters_raw m x y
  case subtract | subtractFrom | shiftRight | shiftLeft =>
    refine flagThen_raw ?_ fun flagged => ?_
    all_goals
      simp only [register_raw]
      rfl
  case jumpOffset target =>
    have run := jumpOffset_raw m (UInt16.ofNat target)
    rwa [toNat_ofNat_address, jumpOffset_address] at run
  case random x kk => exact assign_raw (m := { m with generator := m.generator.draw.2 }) rfl
  case draw x y height =>
    exact drawSprite_raw m x y (Nat.le_trans (Nat.le_of_lt height.isLt) (by decide))
  case skipIfPressed x => exact skipIfPressed_raw m x
  case skipUnlessPressed x => exact skipUnlessPressed_raw m x
  case awaitKey x => exact awaitKey_raw m x
  case setDelay | setSound | addIndex =>
    simp only [RawMachine.execute, register_raw]
    rfl
  case pointGlyph x => exact pointGlyph_raw m x
  case storeDecimal x => exact storeDecimal_raw m x
  case storeRegisters x =>
    have byte : x.val < 256 := Nat.lt_trans x.isLt (by decide)
    have run := storeRegisters_raw m byte
    rwa [storeCount_register] at run
  case loadRegisters x =>
    have byte : x.val < 256 := Nat.lt_trans x.isLt (by decide)
    have run := loadRegisters_raw m byte
    rwa [loadCount_register] at run
  all_goals rfl

/-- The panic of the operations that have no result. -/
def overrun : Operation → Panic
  | .storeRegisters _ => .index
  | _ => .overflow

theorem operate_raw (m : Machine) (op : Operation) :
    m.raw.operate op = rawResult (overrun op) (m.operate op) := by
  cases op
  case instruction i => exact execute_raw m i
  case call target => exact enterCall_raw m target
  case jumpOffset target => exact jumpOffset_raw m target
  case draw x y height => exact drawSprite_raw m x y (Nat.le_of_lt height.toNat_lt)
  case storeRegisters last => exact storeRegisters_raw m last.toNat_lt
  case loadRegisters last => exact loadRegisters_raw m last.toNat_lt
  all_goals rfl

/-! ## Cycles -/

theorem fetch_raw (m : Machine) : m.raw.fetch = .ok (rawOutcome m.fetch) := by
  have small : m.pc.toNat + 1 < wordSize := by
    have bound := m.pc.toNat_lt
    simp only [wordSize, UInt64.size]
    omega
  have next : m.raw.nextWord = .ok (rawOutcome m.nextWord) :=
    attempt_raw_id (Memory.wordChecked_eq small) fun w _ => rfl
  rw [RawMachine.fetch, next, fetch]
  rcases m.nextWord with ⟨fault | w, after⟩ <;> rfl

theorem dispatch_raw (m : Machine) : m.raw.dispatch = .ok (rawOutcome m.dispatch) := by
  rw [RawMachine.dispatch, fetch_raw, dispatch]
  rcases m.fetch with ⟨fault | i, after⟩
  · rfl
  · exact execute_raw after i

theorem cycle_raw (m : Machine) : m.raw.cycle = .ok (rawOutcome m.cycle) := by
  have dispatched : m.raw.drainKeys.dispatch = .ok (rawOutcome m.drainKeys.dispatch) :=
    dispatch_raw m.drainKeys
  have same : m.raw.halted = m.halted := rfl
  rw [RawMachine.cycle, cycle, same, dispatched]
  cases m.halted with
  | true => rfl
  | false => rcases m.drainKeys.dispatch with ⟨fault | ⟨⟩, after⟩ <;> rfl

end Machine

/-! ## Every depth -/

namespace RawMachine

/-- The depth of the call stack is one of the levels that there are. -/
def Leveled (s : RawMachine) : Prop := s.stack.depth.toNat ≤ callLevels

/-- The machine that is stored, if the depth is one of the levels. -/
def machine (s : RawMachine) (leveled : s.Leveled) : Machine where
  memory := s.memory
  registers := s.registers
  pc := s.pc
  index := s.index
  stack := { slots := s.stack.slots, depth := s.stack.depth.toNat, depth_le := leveled }
  screen := s.screen
  keypad := s.keypad
  delay := s.delay
  sound := s.sound
  generator := s.generator
  opcode := s.opcode
  redraw := s.redraw
  halted := s.halted

theorem raw_machine (s : RawMachine) (leveled : s.Leveled) : (s.machine leveled).raw = s := by
  have depth : UInt8.ofNat s.stack.depth.toNat = s.stack.depth := UInt8.ofNat_toNat
  simp only [machine, Machine.raw, CallStack.raw, depth]

theorem leveled_raw (m : Machine) : m.raw.Leveled :=
  Nat.le_trans (Nat.le_of_eq (CallStack.toNat_depth_raw m.stack)) m.stack.depth_le

theorem machine_raw (m : Machine) : m.raw.machine (leveled_raw m) = m := by
  have depth : m.raw.stack.depth.toNat = m.stack.depth := CallStack.toNat_depth_raw m.stack
  simp only [machine, depth]
  rfl

/-- A step in checked operations does not panic, its answer and machine are those of the plain step,
and its depth is one of the levels. -/
def GoesAs {α : Type} (checked : Except Panic (Outcome α)) (plain : Except Fault α × Machine) :
    Prop :=
  ∃ after, checked = .ok (plain.1, after) ∧
    ∃ leveled : after.Leveled, after.machine leveled = plain.2

theorem goesAs_rawOutcome {α : Type} (plain : Except Fault α × Machine) :
    GoesAs (.ok (Machine.rawOutcome plain)) plain :=
  ⟨plain.2.raw, rfl, leveled_raw plain.2, machine_raw plain.2⟩

/-- No cycle and no word's instruction panics, whatever the machine holds, if its depth is one of
the levels. -/
theorem cycle_never_panics (s : RawMachine) (leveled : s.Leveled) :
    GoesAs s.cycle (s.machine leveled).cycle ∧
      ∀ w : UInt16, GoesAs (s.execute (.decode w)) ((s.machine leveled).execute (.decode w)) := by
  have stored := raw_machine s leveled
  constructor
  · have run := Machine.cycle_raw (s.machine leveled)
    rw [stored] at run
    rw [run]
    exact goesAs_rawOutcome _
  · intro w
    have run := Machine.execute_raw (s.machine leveled) (.decode w)
    rw [stored] at run
    rw [run]
    exact goesAs_rawOutcome _

/-- About to come back from the deepest call. -/
def deepest : RawMachine :=
  { (Machine.fresh ⟨Vector.replicate 8 0, 0⟩).raw with
    memory := Memory.blank.write 0x200 [0x00, 0xEE]
    stack := ⟨Vector.replicate callLevels 0x0300, 16⟩ }

theorem leveled_deepest : deepest.Leveled := Nat.le_refl 16

theorem cycle_never_panics_deepest :
    deepest.Leveled ∧ ∃ after, deepest.cycle = .ok (.ok (), after) ∧ after.Leveled := by
  obtain ⟨⟨after, run, kept, _⟩, _⟩ := cycle_never_panics deepest leveled_deepest
  have next : (deepest.machine leveled_deepest).NextWord 0x00EE :=
    ⟨by decide, by decide +kernel⟩
  have answer : (deepest.machine leveled_deepest).cycle.1 = .ok () := by
    rw [Machine.cycle_fst_eq_ite (i := .ret) rfl next rfl fun _ => Iff.rfl]
    exact if_neg (by decide)
  rw [answer] at run
  exact ⟨leveled_deepest, after, run, kept⟩

/-- An operation panics exactly if it has no result, and else goes as the plain one. -/
theorem operate_panics_iff (s : RawMachine) (leveled : s.Leveled) (op : Operation) :
    ((∃ p, s.operate op = .error p) ↔ (s.machine leveled).Overruns op) ∧
      ∀ outcome, (s.machine leveled).operate op = some outcome → GoesAs (s.operate op) outcome := by
  have run := Machine.operate_raw (s.machine leveled) op
  rw [raw_machine s leveled] at run
  rw [run, ← Machine.operate_eq_none_iff]
  cases (s.machine leveled).operate op with
  | none => simp [Machine.rawResult]
  | some outcome =>
    refine ⟨by simp [Machine.rawResult], fun other same => ?_⟩
    cases same
    exact goesAs_rawOutcome outcome

/-- A return panics exactly from a depth beyond the levels. -/
theorem execute_ret_panics_iff (s : RawMachine) (p : Panic) :
    s.execute .ret = .error p ↔ callLevels < s.stack.depth.toNat ∧ p = .index := by
  simp only [execute, leaveCall, attempt, RawStack.pop]
  by_cases unused : s.stack.depth.toNat = 0
  · rw [if_pos unused]
    simp [bind, Except.bind, pure, Except.pure, unused]
  · rw [if_neg unused, difference_eq (Nat.pos_of_ne_zero unused)]
    simp only [bind, Except.bind]
    by_cases inside : s.stack.depth.toNat - 1 < callLevels
    · have levels : ¬ callLevels < s.stack.depth.toNat := by omega
      rw [read_eq s.stack.slots inside]
      simp [levels, done, pure, Except.pure]
    · have beyond : callLevels < s.stack.depth.toNat := by omega
      have outside : Checked.read s.stack.slots (s.stack.depth.toNat - 1) = .error .index :=
        dif_neg inside
      simp [outside, beyond, eq_comm]

end RawMachine

end Chip8

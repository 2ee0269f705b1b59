import Chip8.Font
import Chip8.Instruction
import Chip8.Machine

/-!
# Execution

The effect of one instruction on a machine whose program counter already points past it. An
instruction is a sequence of steps, some of which ask a part of the machine for something that it
can refuse. A refusal ends the instruction with a fault and leaves the machine as the steps before
it have made it; that these have changed nothing is for a proof to say, not built in.
-/

namespace Chip8.Machine

/-- Ends an instruction without a fault. -/
def done (m : Machine) : Except Fault Unit × Machine := (.ok (), m)

/-- Goes on with what a part of the machine gives, or ends with the fault of its refusal. -/
def attempt {α β : Type} (m : Machine) (part : Except Fault α)
    (next : α → Except Fault β × Machine) : Except Fault β × Machine :=
  match part with
  | .error fault => (.error fault, m)
  | .ok a => next a

def setRegister (m : Machine) (x : Register) (value : UInt8) : Machine :=
  { m with registers := m.registers.set x value }

def setFlag (m : Machine) (on : Bool) : Machine :=
  { m with registers := m.registers.setFlag on }

/-- Skips the next instruction if `condition` holds. -/
def skipWhen (condition : Bool) (m : Machine) : Machine := if condition then m.advance else m

/-- The three decimal digits of a byte, hundreds first. -/
def decimalDigits (v : UInt8) : List UInt8 := [v / 100, v / 10 % 10, v % 10]

/-- Vx becomes `vx`'s sum with `vy`, and then VF tells whether it exceeded a byte. -/
def addRegisters (m : Machine) (x y : Register) : Machine :=
  let vx := m.registers.get x
  let vy := m.registers.get y
  (m.setRegister x (vx + vy)).setFlag (255 < vx.toNat + vy.toNat)

/-- Sets VF first and then Vx to a result computed from the registers that hold the new flag; so
with `x` the flag register the result replaces the flag. -/
def flagThen (m : Machine) (x : Register) (flag : Bool) (result : Registers → UInt8) : Machine :=
  let flagged := m.setFlag flag
  flagged.setRegister x (result flagged.registers)

/-- Paints the sprite of the given height that the index points at. -/
def drawSprite (m : Machine) (x y : Register) (height : Nat) : Except Fault Unit × Machine :=
  m.attempt (m.memory.block m.index.toNat height) fun sprite =>
    let (screen, collided) := m.screen.paint (m.registers.get x) (m.registers.get y) sprite
    done { m.setFlag collided with screen, redraw := true }

/-- Skips if the key line named by Vx is pressed, and then consumes the press. -/
def skipIfPressed (m : Machine) (x : Register) : Except Fault Unit × Machine :=
  let key := m.registers.get x
  m.attempt (m.keypad.isPressed key) fun pressed =>
    if pressed then
      m.advance.attempt (m.keypad.clear key) fun keypad => done { m.advance with keypad }
    else m.done

/-- Skips if the key line named by Vx is released, and consumes its press otherwise. -/
def skipUnlessPressed (m : Machine) (x : Register) : Except Fault Unit × Machine :=
  let key := m.registers.get x
  m.attempt (m.keypad.isPressed key) fun pressed =>
    if pressed then m.attempt (m.keypad.clear key) fun keypad => done { m with keypad }
    else m.advance.done

/-- Puts the lowest pressed line into Vx; while there is none, the instruction runs again. -/
def awaitKey (m : Machine) (x : Register) : Machine :=
  match m.keypad.firstPressed with
  | some key => m.setRegister x (UInt8.ofNat key)
  | none => m.stepBack

/-- Points the index at the glyph of the digit in Vx. -/
def pointGlyph (m : Machine) (x : Register) : Except Fault Unit × Machine :=
  let digit := m.registers.get x
  if digit.toNat ≤ 0xF then
    done { m with index := UInt16.ofNat (ImageKind.font.start + digit.toNat * Font.glyphSize) }
  else (.error (.invalidGlyph digit), m)

/-- Writes a block at the index. -/
def storeAtIndex (m : Machine) (values : List UInt8) : Except Fault Unit × Machine :=
  m.attempt (m.memory.setBlock m.index.toNat values) fun memory => done { m with memory }

/-- Reads V0 to Vx from the index on. -/
def loadAtIndex (m : Machine) (x : Register) : Except Fault Unit × Machine :=
  m.attempt (m.memory.block m.index.toNat (x.val + 1)) fun values =>
    done { m with registers := m.registers.load values }

/-- Leaves the innermost call. -/
def leaveCall (m : Machine) : Except Fault Unit × Machine :=
  m.attempt m.stack.pop fun (back, stack) => done { m with stack, pc := back }

/-- Enters a call that comes back to the program counter. -/
def enterCall (m : Machine) (target : UInt16) : Except Fault Unit × Machine :=
  m.attempt (m.stack.push m.pc target) fun stack => done { m with stack, pc := target }

/-- The effect of one instruction. -/
def execute (m : Machine) : Instruction → Except Fault Unit × Machine
  | .clearScreen => done { m with screen := .blank, redraw := true }
  | .ret => m.leaveCall
  | .jump target => done { m with pc := UInt16.ofNat target }
  | .call target => m.enterCall (UInt16.ofNat target)
  | .skipIfByte x kk => done (m.skipWhen (m.registers.get x == kk))
  | .skipUnlessByte x kk => done (m.skipWhen (m.registers.get x != kk))
  | .skipIfSame x y => done (m.skipWhen (m.registers.get x == m.registers.get y))
  | .skipUnlessSame x y => done (m.skipWhen (m.registers.get x != m.registers.get y))
  | .setByte x kk => done (m.setRegister x kk)
  | .addByte x kk => done (m.setRegister x (m.registers.get x + kk))
  | .copy x y => done (m.setRegister x (m.registers.get y))
  | .or x y => done (m.setRegister x (m.registers.get x ||| m.registers.get y))
  | .and x y => done (m.setRegister x (m.registers.get x &&& m.registers.get y))
  | .xor x y => done (m.setRegister x (m.registers.get x ^^^ m.registers.get y))
  | .add x y => done (m.addRegisters x y)
  | .subtract x y =>
    done (m.flagThen x (m.registers.get y < m.registers.get x) fun r => r.get x - r.get y)
  | .shiftRight x => done (m.flagThen x (m.registers.get x &&& 1 == 1) fun r => r.get x >>> 1)
  | .subtractFrom x y =>
    done (m.flagThen x (m.registers.get x < m.registers.get y) fun r => r.get y - r.get x)
  | .shiftLeft x => done (m.flagThen x (m.registers.get x &&& 0x80 != 0) fun r => r.get x <<< 1)
  | .setIndex target => done { m with index := UInt16.ofNat target }
  | .jumpOffset target =>
    done { m with pc := UInt16.ofNat target + (m.registers.get .first).toUInt16 }
  | .random x kk =>
    let (byte, generator) := m.generator.draw
    done { m.setRegister x (byte &&& kk) with generator }
  | .draw x y height => m.drawSprite x y height
  | .skipIfPressed x => m.skipIfPressed x
  | .skipUnlessPressed x => m.skipUnlessPressed x
  | .readDelay x => done (m.setRegister x m.delay.count)
  | .awaitKey x => done (m.awaitKey x)
  | .setDelay x => done { m with delay := ⟨m.registers.get x⟩ }
  | .setSound x => done { m with sound := ⟨m.registers.get x⟩ }
  | .addIndex x => done { m with index := m.index + (m.registers.get x).toUInt16 }
  | .pointGlyph x => m.pointGlyph x
  | .storeDecimal x => m.storeAtIndex (decimalDigits (m.registers.get x))
  | .storeRegisters x => m.storeAtIndex (m.registers.upTo x)
  | .loadRegisters x => m.loadAtIndex x
  | .unknown _ => m.done

end Chip8.Machine

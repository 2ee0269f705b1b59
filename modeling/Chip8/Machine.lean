import Chip8.CallStack
import Chip8.Generator
import Chip8.Image
import Chip8.Keypad
import Chip8.Registers
import Chip8.Screen
import Chip8.Timer

/-!
# The machine

Everything that a program can change or see, as one value. A machine that has stopped stays
stopped.
-/

namespace Chip8

structure Machine where
  memory : Memory
  registers : Registers
  pc : UInt16
  index : UInt16
  stack : CallStack
  screen : Screen
  keypad : Keypad
  delay : Timer
  sound : Timer
  generator : Generator
  /-- The word fetched last. -/
  opcode : UInt16
  /-- Whether the screen was drawn to since the last poll. -/
  redraw : Bool
  halted : Bool
  deriving DecidableEq, Repr

namespace Machine

/-- A machine with nothing loaded, about to run at the start of the program region. -/
def fresh (generator : Generator) : Machine where
  memory := .blank
  registers := .zero
  pc := UInt16.ofNat ImageKind.program.start
  index := 0
  stack := .empty
  screen := .blank
  keypad := .released
  delay := .stopped
  sound := .stopped
  generator := generator
  opcode := 0
  redraw := false
  halted := false

def withSeed (seed : UInt64) : Machine := fresh (Generator.ofSeed seed)

/-- Puts an image into its region of memory. -/
def load (m : Machine) (kind : ImageKind) (image : List UInt8) : Except ImageTooLarge Machine :=
  (m.memory.load kind image).map fun memory => { m with memory }

/-- Moves past one instruction. -/
def advance (m : Machine) : Machine := { m with pc := m.pc + 2 }

/-- Moves back over one instruction. -/
def stepBack (m : Machine) : Machine := { m with pc := m.pc - 2 }

theorem toNat_pc_advance {m : Machine} (room : m.pc.toNat + 2 < 0x10000) :
    m.advance.pc.toNat = m.pc.toNat + 2 := by
  change (m.pc + 2).toNat = _
  rw [UInt16.toNat_add]
  exact Nat.mod_eq_of_lt room

theorem toNat_pc_stepBack {m : Machine} (low : 2 ≤ m.pc.toNat) :
    m.stepBack.pc.toNat + 2 = m.pc.toNat := by
  have room : (2 : UInt16) ≤ m.pc := UInt16.le_iff_toNat_le.mpr low
  change (m.pc - 2).toNat + 2 = _
  rw [UInt16.toNat_sub_of_le _ _ room]
  exact Nat.sub_add_cancel low

def halt (m : Machine) : Machine := { m with halted := true }

/-- Polls the redraw flag: its value, and the machine with the flag cleared. -/
def takeRedraw (m : Machine) : Bool × Machine := (m.redraw, { m with redraw := false })

def mustBeep (m : Machine) : Bool := m.sound.isActive

end Machine

end Chip8

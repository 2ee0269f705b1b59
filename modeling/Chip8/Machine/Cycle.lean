import Chip8.Machine.Execute

/-!
# Cycles

One cycle drains the key queue, fetches and executes one instruction and lets the timers run. A
fault stops the machine where it stands: the timers do not run. A stopped machine does nothing.
-/

namespace Chip8.Machine

/-- Takes the word at the program counter and moves past it. -/
def nextWord (m : Machine) : Except Fault UInt16 × Machine :=
  m.attempt (m.memory.word m.pc.toNat) fun w => (.ok w, m.advance)

/-- Fetches the next instruction, remembering its word. -/
def fetch (m : Machine) : Except Fault Instruction × Machine :=
  match m.nextWord with
  | (.error fault, m) => (.error fault, m)
  | (.ok w, m) => (.ok (.decode w), { m with opcode := w })

def tickTimers (m : Machine) : Machine :=
  { m with delay := m.delay.tick, sound := m.sound.tick }

/-- Applies the pending key events. -/
def drainKeys (m : Machine) : Machine := { m with keypad := m.keypad.drain }

/-- Fetches one instruction and executes it. -/
def dispatch (m : Machine) : Except Fault Unit × Machine :=
  match m.fetch with
  | (.error fault, m) => (.error fault, m)
  | (.ok instruction, m) => m.execute instruction

/-- One cycle: whether it succeeded, and the machine after it. -/
def cycle (m : Machine) : Except Fault Unit × Machine :=
  if m.halted then (.error .halted, m)
  else
    match m.drainKeys.dispatch with
    | (.error fault, m) => (.error fault, m.halt)
    | (.ok (), m) => (.ok (), m.tickTimers)

/-- The outcome of a run: how many cycles succeeded, the fault that ended it if one did, and the
machine at the end. -/
structure RunResult where
  succeeded : Nat
  fault : Option Fault
  machine : Machine
  deriving DecidableEq, Repr

/-- At most `limit` cycles after `succeeded` earlier ones, up to and including the first that
faults. -/
def runFrom (succeeded : Nat) : (limit : Nat) → Machine → RunResult
  | 0, m => ⟨succeeded, none, m⟩
  | limit + 1, m =>
    match m.cycle with
    | (.error fault, after) => ⟨succeeded, some fault, after⟩
    | (.ok (), after) => runFrom (succeeded + 1) limit after

/-- At most `limit` cycles, up to and including the first that faults. -/
def run (limit : Nat) (m : Machine) : RunResult := m.runFrom 0 limit

end Chip8.Machine

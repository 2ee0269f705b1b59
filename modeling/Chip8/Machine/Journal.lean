import Chip8.Instruction.Text
import Chip8.Keypad.EventText
import Chip8.Log
import Chip8.Machine.Operation
import Chip8.Trace

/-!
# The machine's journal

What the log says about the machine's work, computed from the machine before it and after it. The
work itself knows nothing of the log.
-/

namespace Chip8

open Log

/-- Events for lines that do not exist are noted and ignored. -/
def KeyEvent.journal (e : KeyEvent) : List Entry :=
  if e.key.toNat < keyCount then []
  else
    [⟨.warn, Source.keypad, "ignoring event for keypad line 0x" ++ Text.upperHex 2 e.key.toNat⟩]

/-- An event that was sent when its keypad was gone. -/
def KeyEvent.droppedJournal (e : KeyEvent) : List Entry :=
  [⟨.trace, Source.keypad, "keypad event " ++ e.text ++ " dropped, machine is gone"⟩]

def Keypad.drainJournal (k : Keypad) : List Entry := k.pending.flatMap KeyEvent.journal

/-- An image that was loaded. -/
def ImageKind.journal (kind : ImageKind) (size : Nat) : List Entry :=
  [⟨.info, Source.memory, "Loaded " ++ kind.name ++ " image [size: " ++ size.repr ++ ", at: 0x"
    ++ Text.upperHex 3 kind.start ++ "]"⟩]

namespace Machine

def pcText (m : Machine) : String := "0x" ++ Text.upperHex 3 m.pc.toNat

/-- A jump that was not written as one. -/
def detourJournal (reason : String) (m : Machine) (detail : String) : List Entry :=
  [⟨.trace, Source.machine, reason ++ ": set PC to " ++ m.pcText ++ detail⟩]

/-- Skips that were taken. -/
def skipJournal (before after : Machine) : List Entry :=
  if after.pc = before.pc then [] else after.detourJournal "skip" ""

/-- A call that was entered. -/
def callJournal (after : Machine) : List Entry :=
  after.detourJournal "call" (" [sp: " ++ after.stack.depth.repr ++ "]")

/-- What is said of an instruction that was executed. -/
def executionJournal (instruction : Instruction) (before after : Machine) : List Entry :=
  match instruction with
  | .ret => after.detourJournal "return" ""
  | .call _ => after.callJournal
  | .skipIfByte .. | .skipUnlessByte .. | .skipIfSame .. | .skipUnlessSame .. =>
    skipJournal before after
  | .unknown word =>
    [⟨.warn, Source.machine, "Unknown opcode 0x" ++ Text.upperHex 4 word.toNat ++ ", skipping"⟩]
  | _ => []

/-- What is said of the execution of an instruction, which may fault. -/
def executeJournal (m : Machine) (instruction : Instruction) : List Entry :=
  match m.execute instruction with
  | (.error _, _) => []
  | (.ok (), after) => executionJournal instruction m after

/-- What is said of the execution of an operation. -/
def operateJournal (m : Machine) : Operation → List Entry
  | .instruction i => m.executeJournal i
  | .call target =>
    match m.enterCall target with
    | (.error _, _) => []
    | (.ok (), after) => after.callJournal
  | _ => []

def faultJournal (m : Machine) (fault : Fault) : List Entry :=
  [⟨.error, Source.machine, fault.message ++ " [pc: " ++ m.pcText ++ ", opcode: 0x"
    ++ Text.upperHex 4 m.opcode.toNat ++ "]"⟩]

def timersJournal (m : Machine) : List Entry :=
  [⟨.trace, Source.machine, "Timers: [sound: " ++ m.sound.count.toNat.repr ++ "] [delay: "
    ++ m.delay.count.toNat.repr ++ "]"⟩]

/-- What is said of a cycle. -/
def cycleJournal (m : Machine) : List Entry :=
  if m.halted then []
  else
    m.keypad.drainJournal ++
      match m.drainKeys.fetch with
      | (.error fault, after) => after.faultJournal fault
      | (.ok instruction, fetched) =>
        ⟨.debug, Source.machine, "Processing instruction [" ++ instruction.text ++ "]"⟩ ::
          match fetched.execute instruction with
          | (.error fault, after) => after.faultJournal fault
          | (.ok (), after) =>
            executionJournal instruction fetched after ++ after.tickTimers.timersJournal

/-- What is said of a run of at most `limit` cycles. -/
def runJournal (limit : Nat) (m : Machine) : List Entry :=
  match limit with
  | 0 => []
  | limit + 1 =>
    m.cycleJournal ++
      match m.cycle with
      | (.error _, _) => []
      | (.ok (), after) => runJournal limit after

/-- What is said of stopping a machine: nothing if it has stopped before. -/
def haltJournal (m : Machine) : List Entry :=
  if m.halted then [] else [⟨.info, Source.machine, "Halting [pc: " ++ m.pcText ++ "]"⟩]

end Machine

/-- What is said of a trace file that was written. -/
def Trace.saveJournal (t : Trace) (path : String) : List Entry :=
  [⟨.info, Source.trace, "Wrote trace [cycles: " ++ t.length.repr ++ "] to " ++ path⟩]

end Chip8

import Chip8.Machine.Journal
import Chip8.Memory.Range

/-!
# Actions

Everything that can be done to a machine from outside, one action at a time: `perform` gives the
reply and the machine afterwards, `play` the outcome of a sequence of actions. Statements about
whole runs are statements about `play`.
-/

namespace Chip8

inductive Action
  | load (kind : ImageKind) (image : List UInt8)
  | cycle
  | fetch
  /-- Executes the instruction of a word without fetching it. -/
  | execute (word : UInt16)
  /-- Executes an operation, with operands that no word need spell. -/
  | operate (op : Operation)
  /-- Takes the word at the program counter and moves past it. -/
  | nextWord
  /-- Sets a key line at once. -/
  | apply (event : KeyEvent)
  /-- Queues a key event for the next cycle. -/
  | send (event : KeyEvent)
  | halt
  | takeRedraw
  | tickTimers
  | setDelay (value : UInt8)
  | setSound (value : UInt8)
  | setRegister (x : Register) (value : UInt8)
  | addToRegister (x : Register) (value : UInt8)
  | setFlag (on : Bool)
  | setPc (address : UInt16)
  | setIndex (address : UInt16)
  | advance
  | stepBack
  | push (back target : UInt16)
  | pop
  | setByte (address : UInt64) (value : UInt8)
  | fill (range : Range) (value : UInt8)
  deriving DecidableEq, Repr

/-- What an action answers. -/
inductive Reply
  | done
  | fault (f : Fault)
  | tooLarge (e : ImageTooLarge)
  /-- What is asked for reaches past an end that nothing lies behind: that of the 64-bit numbers for
  a range, of the 16-bit numbers for a jump, of the registers for a block of them. -/
  | endOverflow
  | instruction (i : Instruction)
  | word (w : UInt16)
  | flag (on : Bool)
  deriving DecidableEq, Repr

namespace Reply

def ofRangeError : RangeError → Reply
  | .endOverflow => endOverflow
  | .fault f => fault f

end Reply

namespace Machine

/-- What a step of the machine itself answers and leaves behind. -/
def report {α : Type} (answer : α → Reply) : Except Fault α × Machine → Reply × Machine
  | (.error f, after) => (.fault f, after)
  | (.ok a, after) => (answer a, after)

/-- What a step that may be refused answers and leaves behind: if it is refused, the machine as it
was. -/
def settle {ε α : Type} (m : Machine) (refused : ε → Reply) (outcome : Except ε α)
    (accepted : α → Reply × Machine) : Reply × Machine :=
  match outcome with
  | .error e => (refused e, m)
  | .ok a => accepted a

/-- Performs one action. -/
def perform (m : Machine) : Action → Reply × Machine
  | .load kind image => m.settle .tooLarge (m.load kind image) fun m => (.done, m)
  | .cycle => report (fun _ => .done) m.cycle
  | .fetch => report .instruction m.fetch
  | .execute word => report (fun _ => .done) (m.execute (.decode word))
  | .operate op =>
    match m.operate op with
    | none => (.endOverflow, m)
    | some outcome => report (fun _ => .done) outcome
  | .nextWord => report .word m.nextWord
  | .apply event => (.done, { m with keypad := m.keypad.apply event })
  | .send event => (.done, { m with keypad := m.keypad.send event })
  | .halt => (.done, m.halt)
  | .takeRedraw => (.flag m.takeRedraw.1, m.takeRedraw.2)
  | .tickTimers => (.done, m.tickTimers)
  | .setDelay value => (.done, { m with delay := ⟨value⟩ })
  | .setSound value => (.done, { m with sound := ⟨value⟩ })
  | .setRegister x value => (.done, m.setRegister x value)
  | .addToRegister x value => (.done, m.setRegister x (m.registers.get x + value))
  | .setFlag on => (.done, m.setFlag on)
  | .setPc address => (.done, { m with pc := address })
  | .setIndex address => (.done, { m with index := address })
  | .advance => (.done, m.advance)
  | .stepBack => (.done, m.stepBack)
  | .push back target =>
    m.settle .fault (m.stack.push back target) fun stack => (.done, { m with stack })
  | .pop => m.settle .fault m.stack.pop fun (back, stack) => (.word back, { m with stack })
  | .setByte address value =>
    m.settle .fault (m.memory.set address.toNat value) fun memory => (.done, { m with memory })
  | .fill range value =>
    m.settle .ofRangeError (m.memory.fillRange range value) fun memory =>
      (.done, { m with memory })

/-- Performs actions one after the other: their replies and the machine at the end. -/
def play (m : Machine) : List Action → List Reply × Machine
  | [] => ([], m)
  | a :: actions =>
    let (reply, after) := m.perform a
    let (replies, last) := after.play actions
    (reply :: replies, last)

/-- What is said of an action. -/
def journal (m : Machine) : Action → List Log.Entry
  | .load kind image =>
    match m.load kind image with
    | .ok _ => kind.journal image.length
    | .error _ => []
  | .cycle => m.cycleJournal
  | .execute word => m.executeJournal (.decode word)
  | .operate op => m.operateJournal op
  | .apply event => event.journal
  | .halt => m.haltJournal
  | _ => []

end Machine

end Chip8

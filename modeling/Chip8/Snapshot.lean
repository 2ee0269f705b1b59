import Chip8.Machine

/-!
# Snapshots

What can be observed of a machine between two cycles: thirteen named fields. A field's values have
one of a few shapes, and what is said of a snapshot field by field (comparing, writing, reading)
is said once per shape. A snapshot and the table of its fields are two views of one thing
(`ofFields_get`).
-/

namespace Chip8

/-- A single value of a field. -/
inductive Scalar
  | byte
  | word
  | flag
  deriving DecidableEq, Repr

abbrev Scalar.Value : Scalar → Type
  | byte => UInt8
  | word => UInt16
  | flag => Bool

/-- The values of a field: one scalar, sixteen of them, or any number of bytes. -/
inductive Shape
  | one (s : Scalar)
  | sixteen (s : Scalar)
  | bytes
  deriving DecidableEq, Repr

abbrev Shape.Value : Shape → Type
  | one s => s.Value
  | sixteen s => Vector s.Value 16
  | bytes => Array UInt8

instance (s : Scalar) : DecidableEq s.Value :=
  match s with
  | .byte => inferInstanceAs (DecidableEq UInt8)
  | .word => inferInstanceAs (DecidableEq UInt16)
  | .flag => inferInstanceAs (DecidableEq Bool)

instance (s : Shape) : DecidableEq s.Value :=
  match s with
  | .one s => inferInstanceAs (DecidableEq s.Value)
  | .sixteen s => inferInstanceAs (DecidableEq (Vector s.Value 16))
  | .bytes => inferInstanceAs (DecidableEq (Array UInt8))

structure Snapshot where
  memory : Array UInt8
  registers : Vector UInt8 16
  pc : UInt16
  index : UInt16
  stack : Vector UInt16 16
  depth : UInt8
  opcode : UInt16
  keypad : Vector Bool 16
  screen : Array UInt8
  delay : UInt8
  sound : UInt8
  redraw : Bool
  halted : Bool
  deriving DecidableEq, Repr

namespace Snapshot

inductive Field
  | memory | registers | pc | index | stack | depth | opcode | keypad | screen
  | delay | sound | redraw | halted
  deriving DecidableEq, Repr

namespace Field

/-- Every field, in the order in which fields are written and compared. -/
def all : List Field :=
  [memory, registers, pc, index, stack, depth, opcode, keypad, screen, delay, sound, redraw, halted]

theorem mem_all (f : Field) : f ∈ all := by cases f <;> decide

theorem nodup_all : all.Nodup := by decide

def name : Field → String
  | memory => "memory"
  | registers => "registers"
  | pc => "pc"
  | index => "i"
  | stack => "stack"
  | depth => "sp"
  | opcode => "opcode"
  | keypad => "keypad"
  | screen => "frame_buffer"
  | delay => "delay_timer"
  | sound => "sound_timer"
  | redraw => "must_draw"
  | halted => "halted"

abbrev shape : Field → Shape
  | memory | screen => .bytes
  | registers => .sixteen .byte
  | stack => .sixteen .word
  | keypad => .sixteen .flag
  | pc | index | opcode => .one .word
  | depth | delay | sound => .one .byte
  | redraw | halted => .one .flag

end Field

/-- The value of a field. -/
def get (s : Snapshot) : (f : Field) → f.shape.Value
  | .memory => s.memory
  | .registers => s.registers
  | .pc => s.pc
  | .index => s.index
  | .stack => s.stack
  | .depth => s.depth
  | .opcode => s.opcode
  | .keypad => s.keypad
  | .screen => s.screen
  | .delay => s.delay
  | .sound => s.sound
  | .redraw => s.redraw
  | .halted => s.halted

/-- The snapshot with the given field values. -/
def ofFields (value : (f : Field) → f.shape.Value) : Snapshot where
  memory := value .memory
  registers := value .registers
  pc := value .pc
  index := value .index
  stack := value .stack
  depth := value .depth
  opcode := value .opcode
  keypad := value .keypad
  screen := value .screen
  delay := value .delay
  sound := value .sound
  redraw := value .redraw
  halted := value .halted

theorem ofFields_get (s : Snapshot) : ofFields s.get = s := rfl

theorem get_ofFields (value : (f : Field) → f.shape.Value) : (ofFields value).get = value := by
  funext f
  cases f <;> rfl

/-- The first field in which two snapshots differ. -/
def firstDifference (a b : Snapshot) : Option Field :=
  Field.all.find? fun f => a.get f ≠ b.get f

/-- Two snapshots differ in no field exactly if they are equal. -/
theorem firstDifference_eq_none_iff (a b : Snapshot) : a.firstDifference b = none ↔ a = b := by
  constructor
  · intro h
    simp only [firstDifference, List.find?_eq_none, decide_eq_true_eq, ne_eq,
      Decidable.not_not] at h
    rw [← ofFields_get a, ← ofFields_get b]
    congr 1
    funext f
    exact h f (Field.mem_all f)
  · rintro rfl
    simp [firstDifference]

end Snapshot

/-- What can be observed of the machine now. -/
def Machine.snapshot (m : Machine) : Snapshot where
  memory := m.memory.bytes.toArray
  registers := m.registers.values
  pc := m.pc
  index := m.index
  stack := m.stack.slots
  depth := UInt8.ofNat m.stack.depth
  opcode := m.opcode
  keypad := m.keypad.lines
  screen := m.screen.cells.toArray
  delay := m.delay.count
  sound := m.sound.count
  redraw := m.redraw
  halted := m.halted

end Chip8

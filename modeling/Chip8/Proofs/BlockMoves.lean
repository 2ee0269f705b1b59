import Chip8.Proofs.Faults
import Chip8.Proofs.Runs

/-!
# Blocks between registers and memory

Fx33, Fx55 and Fx65 move a block of bytes between registers and the memory at the index. A block that
is stored is what a later load of it reads (`block_write`), and storing what has been read writes
nothing new (`write_block`). So storing and loading undo each other, whatever happens in between that
leaves memory and index alone, and the digits of a byte are read back as its digits. `blockMoves_undone`
says this for an instruction that is executed by itself and for a cycle that fetches it, together with
where a move can write and what is left of one that does not fit.
-/

namespace Chip8

namespace Memory

/-- The bytes that are read where a block was written are those written first. -/
theorem block_write (m : Memory) {address len : Nat} {values : List UInt8}
    (fits : address + values.length ≤ memorySize) (short : len ≤ values.length) :
    (m.write address values).block address len = .ok (values.take len) := by
  have inside : address + len ≤ memorySize := by omega
  rw [block, dif_pos inside]
  refine congrArg Except.ok (List.ext_getElem ?_ fun k _ below => ?_)
  · rw [List.length_ofFn, List.length_take_of_le short]
  · have present : k < values.length := by
      rw [List.length_take] at below
      omega
    simp [getElem_write, present]

/-- Writing a block where it was read changes nothing. -/
theorem write_block {m : Memory} {address len : Nat} {values : List UInt8}
    (read : m.block address len = .ok values) : m.write address values = m := by
  refine ext_getElem fun a inside => ?_
  rw [getElem_write]
  split
  · rename_i above
    unfold block at read
    split at read
    · cases read
      by_cases covered : a - address < len
      · simp [covered, Nat.add_sub_cancel' above]
      · simp [covered]
    · cases read
  · rfl

end Memory

namespace Registers

theorem getElem?_upTo (r : Registers) (x k : Register) :
    (r.upTo x)[k.val]? = if k ≤ x then some (r.get k) else none := by
  rw [upTo, List.getElem?_take, Vector.getElem?_toList, Vector.getElem?_eq_getElem k.isLt]
  simp only [Nat.lt_succ_iff, Fin.le_def]
  rfl

/-- Loading V0 to Vy of other registers takes these over and keeps the rest. -/
theorem get_load_upTo (r s : Registers) (y k : Register) :
    (s.load (r.upTo y)).get k = if k ≤ y then r.get k else s.get k := by
  rw [get_load, getElem?_upTo]
  split <;> rfl

theorem take_upTo (r : Registers) {x y : Register} (below : y ≤ x) :
    (r.upTo x).take (y.val + 1) = r.upTo y := by
  rw [upTo, List.take_take, upTo, Nat.min_eq_left (Nat.succ_le_succ below)]

/-- Registers that have been loaded hold what was loaded. -/
theorem upTo_load (r : Registers) {x : Register} {values : List UInt8}
    (length : values.length = x.val + 1) : (r.load values).upTo x = values := by
  refine List.ext_getElem ((length_upTo _ _).trans length.symm) fun k _ below => ?_
  simp [upTo, load, below]

end Registers

/-! ## The instructions -/

/-- The instructions that move a block of bytes between registers and the memory at the index. -/
inductive BlockMove
  /-- Fx33: the decimal digits of Vx go to memory. -/
  | digits
  /-- Fx55: V0 to Vx go to memory. -/
  | store
  /-- Fx65: V0 to Vx come from memory. -/
  | load
  deriving DecidableEq, Repr

namespace BlockMove

/-- The last byte of the words. -/
def lastByte : BlockMove → Nat
  | digits => 0x33
  | store => 0x55
  | load => 0x65

/-- The word Fx33, Fx55 or Fx65. -/
def word (op : BlockMove) (x : Register) : UInt16 := UInt16.ofNat (0xF000 + 0x100 * x + op.lastByte)

/-- The number of bytes in the block. -/
def size (op : BlockMove) (x : Register) : Nat :=
  match op with
  | digits => 3
  | store | load => x + 1

/-- The instruction that the words decode to. -/
def instruction (op : BlockMove) (x : Register) : Instruction :=
  match op with
  | digits => .storeDecimal x
  | store => .storeRegisters x
  | load => .loadRegisters x

theorem decode_word (op : BlockMove) (x : Register) :
    Instruction.decode (op.word x) = op.instruction x := by
  apply Instruction.decode_of_spells
  have value : (op.word x).toNat = 0xF000 + 0x100 * x + op.lastByte := by
    rw [word, UInt16.toNat_ofNat']
    cases op <;> simp only [lastByte] <;> omega
  rw [value]
  cases op <;> simp only [instruction, lastByte, Instruction.Spells] <;> omega

end BlockMove

namespace Machine

variable {m : Machine} {x y : Register} {op : BlockMove} {w : UInt16}
  {outcome : Except Fault Unit × Machine}

/-- A machine executes a word by itself, or in a cycle that comes to it. -/
inductive Executes (m : Machine) (w : UInt16) : Except Fault Unit × Machine → Prop
  | alone : Executes m w (m.execute (.decode w))
  | cycle (running : m.halted = false) (next : m.NextWord w.toNat) : Executes m w m.cycle

/-- Two machines agree in the parts that a block move reads or writes. -/
structure SameBlocks (m n : Machine) : Prop where
  memory : n.memory = m.memory
  registers : n.registers = m.registers
  index : n.index = m.index

/-- What a cycle does before and after it executes the word is nothing to memory, registers and
index. -/
theorem Executes.inner (executes : Executes m w outcome) : ∃ start after,
    SameBlocks m start ∧ start.execute (.decode w) = (outcome.1, after) ∧
      SameBlocks after outcome.2 := by
  cases executes with
  | alone => exact ⟨m, _, ⟨rfl, rfl, rfl⟩, rfl, ⟨rfl, rfl, rfl⟩⟩
  | cycle running next =>
    have read : m.memory.word m.pc.toNat = .ok w := Memory.word_eq_ok_iff.mpr next
    rw [cycle_of_word running read]
    rcases result : (m.fetched w).execute (.decode w) with ⟨f | ⟨⟩, after⟩ <;>
      exact ⟨m.fetched w, after, ⟨rfl, rfl, rfl⟩, result, ⟨rfl, rfl, rfl⟩⟩

/-! ## One move -/

/-- The bytes that a move which fits writes from the index on. -/
def written (m : Machine) (x : Register) : BlockMove → List UInt8
  | .digits => decimalDigits (m.registers.get x)
  | .store => m.registers.upTo x
  | .load => []

theorem length_written_le : (m.written x op).length ≤ op.size x := by
  cases op
  case digits => exact Nat.le_refl _
  case store => exact Nat.le_of_eq (Registers.length_upTo _ _)
  case load => exact Nat.zero_le _

/-- The registers after a move that fits. -/
def registersMoved (m : Machine) (x : Register) : BlockMove → Registers
  | .digits | .store => m.registers
  | .load => m.registers.load ((m.memory.bytes.toList.drop m.index.toNat).take (x + 1))

theorem storeAtIndex_of_fits {values : List UInt8}
    (fits : m.index.toNat + values.length ≤ memorySize) :
    m.storeAtIndex values = done { m with memory := m.memory.write m.index.toNat values } := by
  rw [storeAtIndex, Memory.setBlock_eq_ok_iff.mpr ⟨fits, rfl⟩]
  rfl

theorem loadAtIndex_of_fits (fits : m.index.toNat + (x.val + 1) ≤ memorySize) :
    m.loadAtIndex x = done { m with
      registers := m.registers.load ((m.memory.bytes.toList.drop m.index.toNat).take (x + 1)) } := by
  rw [loadAtIndex, m.memory.block_of_fits fits]
  rfl

theorem execute_blockMove (fits : m.index.toNat + op.size x ≤ memorySize) :
    m.execute (op.instruction x) = done { m with
      memory := m.memory.write m.index.toNat (m.written x op)
      registers := m.registersMoved x op } := by
  cases op
  case digits =>
    have room : m.index.toNat + (decimalDigits (m.registers.get x)).length ≤ memorySize := fits
    exact storeAtIndex_of_fits room
  case store =>
    have length := Registers.length_upTo m.registers x
    exact storeAtIndex_of_fits (length.symm ▸ fits)
  case load => exact loadAtIndex_of_fits fits

theorem refuses_blockMove {f : Fault} : m.Refuses (op.instruction x) f ↔
    memorySize < m.index.toNat + op.size x ∧ f = Memory.blockFault m.index.toNat := by
  cases op <;> exact Iff.rfl

/-- An outcome that is a success and in which index and memory are as before, but perhaps for the
`size` bytes at the index. -/
structure WithinBlock (m : Machine) (size : Nat) (outcome : Except Fault Unit × Machine) : Prop where
  success : outcome.1 = .ok ()
  index : outcome.2.index = m.index
  outside : ∀ (a : Nat) (inside : a < memorySize),
    a < m.index.toNat ∨ m.index.toNat + size ≤ a → outcome.2.memory.bytes[a] = m.memory.bytes[a]

theorem withinBlock_of_write {size : Nat} {values : List UInt8} (success : outcome.1 = .ok ())
    (index : outcome.2.index = m.index)
    (memory : outcome.2.memory = m.memory.write m.index.toNat values)
    (short : values.length ≤ size) : WithinBlock m size outcome := by
  refine ⟨success, index, fun a inside outside => ?_⟩
  simp only [memory]
  exact Memory.getElem_write_of_outside _ inside (by omega)

/-- What a move that fits makes of memory and registers. -/
structure BlockMoved (m : Machine) (op : BlockMove) (x : Register)
    (outcome : Except Fault Unit × Machine) : Prop extends WithinBlock m (op.size x) outcome where
  memory : outcome.2.memory = m.memory.write m.index.toNat (m.written x op)
  registers : outcome.2.registers = m.registersMoved x op

theorem Executes.moved (executes : Executes m (op.word x) outcome)
    (fits : m.index.toNat + op.size x ≤ memorySize) : BlockMoved m op x outcome := by
  obtain ⟨start, after, before, executed, behind⟩ := executes.inner
  rw [op.decode_word, execute_blockMove (before.index ▸ fits)] at executed
  obtain ⟨success, rfl⟩ := Prod.mk.inj executed
  have bytes : start.written x op = m.written x op := by
    cases op <;> simp only [written, before.registers]
  have registers : start.registersMoved x op = m.registersMoved x op := by
    cases op <;> simp only [registersMoved, before.registers, before.memory, before.index]
  have memory : outcome.2.memory = m.memory.write m.index.toNat (m.written x op) := by
    rw [behind.memory, bytes, before.memory, before.index]
  have index : outcome.2.index = m.index := behind.index.trans before.index
  exact {
    toWithinBlock := withinBlock_of_write success.symm index memory length_written_le
    memory := memory
    registers := behind.registers.trans registers }

/-- What is left of a move that does not fit. -/
structure BlockRefused (m : Machine) (outcome : Except Fault Unit × Machine) : Prop
    extends SameBlocks m outcome.2 where
  fault : outcome.1 = .error (Memory.blockFault m.index.toNat)

theorem Executes.refused (executes : Executes m (op.word x) outcome)
    (cut : memorySize < m.index.toNat + op.size x) : BlockRefused m outcome := by
  obtain ⟨start, after, before, executed, behind⟩ := executes.inner
  rw [op.decode_word, execute_eq_error_iff.mpr
    ⟨refuses_blockMove.mpr ⟨before.index ▸ cut, rfl⟩, rfl⟩] at executed
  obtain ⟨fault, rfl⟩ := Prod.mk.inj executed
  exact {
    memory := behind.memory.trans before.memory
    registers := behind.registers.trans before.registers
    index := behind.index.trans before.index
    fault := by rw [← fault, before.index] }

/-! ## Two moves -/

/-- Between two moves: at the end of the actions, memory and index are what they were. -/
def KeepsBlocks (m : Machine) (actions : List Action) : Prop :=
  (m.after actions).memory = m.memory ∧ (m.after actions).index = m.index

/-- A load where a block was written gets the bytes that were written. -/
theorem Executes.readsBack {between : Machine} {values : List UInt8}
    (loads : Executes between (BlockMove.load.word y) outcome)
    (memory : between.memory = m.memory.write m.index.toNat values)
    (index : between.index = m.index) (fits : m.index.toNat + values.length ≤ memorySize)
    (short : y.val + 1 ≤ values.length) :
    WithinBlock m values.length outcome ∧
      outcome.2.registers = between.registers.load (values.take (y.val + 1)) := by
  have room : between.index.toNat + BlockMove.load.size y ≤ memorySize := by
    rw [index]
    exact Nat.le_trans (Nat.add_le_add_left short _) fits
  have moved := loads.moved room
  have read := between.memory.block_of_fits room
  rw [memory, index, BlockMove.size, Memory.block_write m.memory fits short, ← memory, ← index]
    at read
  refine ⟨withinBlock_of_write moved.success (moved.index.trans index) (moved.memory.trans memory)
    (Nat.le_refl _), ?_⟩
  rw [moved.registers, registersMoved, ← Except.ok.inj read]

/-- What Fx65 finds in the registers after Fx55 with the same or a greater x. -/
structure BlockRestored (m between : Machine) (x y : Register)
    (outcome : Except Fault Unit × Machine) : Prop extends WithinBlock m (x + 1) outcome where
  restored : ∀ k, k ≤ y → outcome.2.registers.get k = m.registers.get k
  others : ∀ k, y < k → outcome.2.registers.get k = between.registers.get k

theorem restored_of_store {stored : Except Fault Unit × Machine} {actions : List Action}
    (fits : m.index.toNat + x + 1 ≤ memorySize)
    (stores : Executes m (BlockMove.store.word x) stored) (keeps : KeepsBlocks stored.2 actions)
    (below : y ≤ x) (loads : Executes (stored.2.after actions) (BlockMove.load.word y) outcome) :
    BlockRestored m (stored.2.after actions) x y outcome := by
  have moved := stores.moved fits
  have length := Registers.length_upTo m.registers x
  obtain ⟨within, registers⟩ := loads.readsBack
    (keeps.1.trans moved.memory) (keeps.2.trans moved.index) (by rw [written, length]; exact fits)
    (by rw [written, length]; exact Nat.succ_le_succ below)
  rw [written, length] at within
  rw [written, Registers.take_upTo _ below] at registers
  refine { toWithinBlock := within, restored := fun k low => ?_, others := fun k high => ?_ }
  · rw [registers, Registers.get_load_upTo, if_pos low]
  · rw [registers, Registers.get_load_upTo, if_neg (Fin.not_le.mpr high)]

/-- What F265 finds in the registers after Fx33. -/
structure DigitsRead (m : Machine) (x : Register) (outcome : Except Fault Unit × Machine) :
    Prop extends WithinBlock m 3 outcome where
  digits : ∀ k : Register, k.val < 3 → (outcome.2.registers.get k).toNat ≤ 9
  value : 100 * (outcome.2.registers.get ⟨0, by decide⟩).toNat +
    10 * (outcome.2.registers.get ⟨1, by decide⟩).toNat +
    (outcome.2.registers.get ⟨2, by decide⟩).toNat = (m.registers.get x).toNat

theorem decimalDigits_spec (v : UInt8) : ∃ hundreds tens ones : UInt8,
    decimalDigits v = [hundreds, tens, ones] ∧
      hundreds.toNat ≤ 9 ∧ tens.toNat ≤ 9 ∧ ones.toNat ≤ 9 ∧
      100 * hundreds.toNat + 10 * tens.toNat + ones.toNat = v.toNat := by
  have bound := v.toNat_lt
  refine ⟨_, _, _, rfl, ?_⟩
  simp only [UInt8.toNat_div, UInt8.toNat_mod, UInt8.reduceToNat]
  omega

theorem digitsRead_of_digits {wrote : Except Fault Unit × Machine} {actions : List Action}
    (fits : m.index.toNat + 3 ≤ memorySize)
    (writes : Executes m (BlockMove.digits.word x) wrote) (keeps : KeepsBlocks wrote.2 actions)
    (loads : Executes (wrote.2.after actions) 0xF265 outcome) : DigitsRead m x outcome := by
  have moved := writes.moved fits
  have loads : Executes (wrote.2.after actions) (BlockMove.load.word ⟨2, by decide⟩) outcome :=
    loads
  obtain ⟨within, registers⟩ := loads.readsBack
    (keeps.1.trans moved.memory) (keeps.2.trans moved.index) fits (Nat.le_refl _)
  obtain ⟨hundreds, tens, ones, digits, first, second, third, sum⟩ :=
    decimalDigits_spec (m.registers.get x)
  rw [written, digits] at registers
  refine { toWithinBlock := within, digits := fun k low => ?_, value := ?_ }
  · rw [registers, Registers.get_load]
    obtain ⟨_ | _ | _ | k, register⟩ := k
    · exact first
    · exact second
    · exact third
    · exact absurd low (by simp)
  · simp only [registers, Registers.get_load]
    exact sum

/-- Storing what has just been loaded writes nothing new. -/
theorem memory_of_loadStore {loaded : Except Fault Unit × Machine}
    (fits : m.index.toNat + x + 1 ≤ memorySize)
    (loads : Executes m (BlockMove.load.word x) loaded)
    (stores : Executes loaded.2 (BlockMove.store.word x) outcome) :
    outcome.1 = .ok () ∧ outcome.2.memory = m.memory ∧ outcome.2.index = m.index := by
  have first := loads.moved fits
  have second := stores.moved (first.index ▸ fits)
  have read : m.memory.block m.index.toNat (x.val + 1) = .ok _ := m.memory.block_of_fits fits
  have written : m.memory.block m.index.toNat (x.val + 1) = .ok (loaded.2.written x .store) := by
    rw [Machine.written, first.registers, registersMoved,
      Registers.upTo_load _ (Memory.length_block read)]
    exact read
  refine ⟨second.success, second.memory.trans ?_, second.index.trans first.index⟩
  rw [first.memory, first.index]
  exact Memory.write_block written

/-- For all machines and registers, and for an instruction that is executed by itself as well as for a
cycle that fetches it: a block move that fits writes its block and nothing else, and one that does not
fit moves nothing. Fx65 restores what Fx55 with the same or a greater x has stored, whatever has
happened to the registers since, and keeps the registers past its own. Fx55 right after Fx65 leaves
memory as it was. F265 gets the digits that Fx33 has written. -/
theorem blockMoves_undone (m : Machine) (x : Register) :
    (∀ op outcome, Executes m (op.word x) outcome →
      (m.index.toNat + op.size x ≤ memorySize → BlockMoved m op x outcome) ∧
      (memorySize < m.index.toNat + op.size x → BlockRefused m outcome)) ∧
    (m.index.toNat + x + 1 ≤ memorySize →
      (∀ stored actions y outcome, Executes m (BlockMove.store.word x) stored →
        KeepsBlocks stored.2 actions → y ≤ x →
        Executes (stored.2.after actions) (BlockMove.load.word y) outcome →
        BlockRestored m (stored.2.after actions) x y outcome) ∧
      ∀ loaded outcome, Executes m (BlockMove.load.word x) loaded →
        Executes loaded.2 (BlockMove.store.word x) outcome →
        outcome.1 = .ok () ∧ outcome.2.memory = m.memory ∧ outcome.2.index = m.index) ∧
    (m.index.toNat + 3 ≤ memorySize →
      ∀ written actions outcome, Executes m (BlockMove.digits.word x) written →
        KeepsBlocks written.2 actions → Executes (written.2.after actions) 0xF265 outcome →
        DigitsRead m x outcome) := by
  refine ⟨fun op outcome executes => ⟨executes.moved, executes.refused⟩, fun fits => ⟨?_, ?_⟩,
    fun fits => ?_⟩
  · intro stored actions y outcome stores keeps below loads
    exact restored_of_store fits stores keeps below loads
  · intro loaded outcome loads stores
    exact memory_of_loadStore fits loads stores
  · intro written actions outcome writes keeps loads
    exact digitsRead_of_digits fits writes keeps loads

/-- Stores V0 and V1 and loads them again. -/
def savesAndRestores : Machine :=
  { fresh ⟨Vector.replicate 8 0, 0⟩ with
    memory := Memory.blank.write 0x200 [0xF1, 0x55, 0xF1, 0x65]
    registers := Registers.zero.load [127, 2]
    index := 0x300 }

/-- V0 is set to 9 between the two cycles. By themselves, Fx65 and Fx55 keep memory and Fx33 gives the
seven of 127 to V2; with a byte too few, nothing is stored. -/
theorem blockMoves_undone_savesAndRestores :
    savesAndRestores.index.toNat + 1 + 1 ≤ memorySize ∧
      Executes savesAndRestores 0xF155 savesAndRestores.cycle ∧
      KeepsBlocks savesAndRestores.cycle.2 [.execute 0x6009] ∧
      Executes (savesAndRestores.cycle.2.after [.execute 0x6009]) 0xF165
        (savesAndRestores.cycle.2.after [.execute 0x6009]).cycle ∧
      (savesAndRestores.cycle.2.after [.execute 0x6009]).registers.get .first = 9 ∧
      (savesAndRestores.cycle.2.after [.execute 0x6009]).cycle.2.registers.get .first = 127 ∧
      ((savesAndRestores.execute (.decode 0xF165)).2.execute (.decode 0xF155)).2.memory =
        savesAndRestores.memory ∧
      DigitsRead savesAndRestores .first
        ((savesAndRestores.execute (.decode 0xF033)).2.execute (.decode 0xF265)) ∧
      ({ savesAndRestores with index := 0xFFF }.execute (.decode 0xF155)).2.memory =
        savesAndRestores.memory := by
  have stores : Executes savesAndRestores 0xF155 savesAndRestores.cycle :=
    .cycle rfl ⟨by decide, by decide +kernel⟩
  have decoded : Instruction.decode 0x6009 = .setByte .first 9 := by decide
  have keeps (n : Machine) : KeepsBlocks n [.execute 0x6009] := by
    simp only [KeepsBlocks, after_cons, after_nil, perform, report_snd, decoded, execute]
    exact ⟨rfl, rfl⟩
  have loads : Executes (savesAndRestores.cycle.2.after [.execute 0x6009]) 0xF165
      (savesAndRestores.cycle.2.after [.execute 0x6009]).cycle :=
    .cycle (by decide +kernel) ⟨by decide +kernel, by decide +kernel⟩
  have fits : savesAndRestores.index.toNat + 1 + 1 ≤ memorySize := by decide
  obtain ⟨_, moves, _⟩ := blockMoves_undone savesAndRestores ⟨1, by decide⟩
  obtain ⟨restores, keepsMemory⟩ := moves fits
  have restored := restores _ _ ⟨1, by decide⟩ _ stores (keeps _) (by decide) loads
  have digits := (blockMoves_undone savesAndRestores .first).2.2 (by decide) _ [] _ .alone
    ⟨rfl, rfl⟩ .alone
  have refused := ((blockMoves_undone { savesAndRestores with index := 0xFFF }
    ⟨1, by decide⟩).1 .store _ .alone).2 (by decide)
  exact ⟨fits, stores, keeps _, loads, by decide +kernel, restored.restored .first (by decide),
    (keepsMemory _ _ .alone .alone).2.1, digits, refused.memory⟩

end Machine

end Chip8

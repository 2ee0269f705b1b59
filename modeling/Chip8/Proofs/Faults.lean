import Chip8.Proofs.Cycles
import Chip8.Proofs.Decoding

/-!
# Faults of a cycle

Two facts about a cycle of a running machine, whatever state it is in. It faults exactly in the
situations that `FaultDue` lists by word and operand, with the fault listed there, and runs on in
every other (`cycle_faults_exactly`). And a fault has no effect but to stop the machine: the queued
key events are in and the word may have been fetched, but nothing that the faulting instruction
does is left behind (`cycle_fault_atomic`).
-/

namespace Chip8

theorem Keypad.lines_foldl_apply (events : List KeyEvent) (k : Keypad) :
    (events.foldl Keypad.apply k).lines =
      events.foldl (fun lines e => lines.setIfInBounds e.key.toNat e.isPress) k.lines := by
  induction events generalizing k with
  | nil => rfl
  | cons e rest ih =>
    rw [List.foldl_cons, List.foldl_cons, ih]
    rfl

namespace Machine

variable {m after : Machine} {f : Fault}

/-- The word that the machine is about to execute. -/
def NextWord (m : Machine) (word : Nat) : Prop := m.memory.HoldsWord m.pc.toNat word

/-- A next word that spells an instruction is fetched and decodes to that instruction. -/
theorem NextWord.decodes {w : Nat} {i : Instruction} (next : m.NextWord w)
    (spelled : Instruction.Spells i w) :
    ∃ v : UInt16, v.toNat = w ∧ m.memory.word m.pc.toNat = .ok v ∧ Instruction.decode v = i := by
  obtain ⟨v, read, held⟩ := m.memory.word_of_inside next.1
  obtain rfl := next.unique held
  exact ⟨v, rfl, read, Instruction.decode_of_spells spelled⟩

/-! ## When a cycle faults -/

/-- The faults that the next cycle of a running machine raises, by the words that raise them. -/
inductive FaultDue (m : Machine) : Fault → Prop
  | outside (above : memorySize ≤ m.pc.toNat) : FaultDue m (.addressOutOfRange m.pc.toNat)
  | cut (last : m.pc.toNat + 1 = memorySize) : FaultDue m (.addressOutOfRange memorySize)
  /-- 00EE with no call to come back from. -/
  | underflow (next : m.NextWord 0x00EE) (unused : m.stack.depth = 0) :
    FaultDue m .stackUnderflow
  /-- 2nnn with sixteen calls in progress. -/
  | overflow (nnn : UInt16) (narrow : nnn.toNat < 0x1000) (next : m.NextWord (0x2000 + nnn.toNat))
    (full : m.stack.depth = 16) : FaultDue m (.stackOverflow nnn)
  /-- Dxyn with a sprite that memory does not hold. -/
  | sprite (x y n : Fin 16) (next : m.NextWord (0xD000 + 0x100 * x + 0x10 * y + n))
    (long : memorySize < m.index.toNat + n) :
    FaultDue m (.addressOutOfRange (max memorySize m.index.toNat))
  /-- Fx33 with no room for three digits. -/
  | digits (x : Fin 16) (next : m.NextWord (0xF033 + 0x100 * x))
    (long : memorySize < m.index.toNat + 3) :
    FaultDue m (.addressOutOfRange (max memorySize m.index.toNat))
  /-- Fx55 or Fx65 with no room for V0 to Vx. -/
  | registers (x : Fin 16)
    (next : m.NextWord (0xF055 + 0x100 * x) ∨ m.NextWord (0xF065 + 0x100 * x))
    (long : memorySize < m.index.toNat + x + 1) :
    FaultDue m (.addressOutOfRange (max memorySize m.index.toNat))
  /-- Fx29 of a value that is no digit. -/
  | glyph (x : Fin 16) (next : m.NextWord (0xF029 + 0x100 * x))
    (large : 15 < (m.registers.get x).toNat) : FaultDue m (.invalidGlyph (m.registers.get x))
  /-- Ex9E or ExA1 of a value that is no key. -/
  | line (x : Fin 16)
    (next : m.NextWord (0xE09E + 0x100 * x) ∨ m.NextWord (0xE0A1 + 0x100 * x))
    (large : 15 < (m.registers.get x).toNat) : FaultDue m (.keyOutOfRange (m.registers.get x))

/-- Fetching changes nothing that a refusal depends on. -/
theorem refuses_fetched (w : UInt16) (i : Instruction) :
    (m.fetched w).Refuses i f ↔ m.Refuses i f := by
  cases i <;> exact Iff.rfl

theorem cycle_eq_of_fst {result : Except Fault Unit} (first : m.cycle.1 = result) :
    m.cycle = (result, m.cycle.2) :=
  Prod.ext first rfl

/-- A cycle faults if the word cannot be fetched, or if the instruction it spells is refused. -/
theorem cycle_fst_eq_error_iff (running : m.halted = false) :
    m.cycle.1 = .error f ↔
      (memorySize ≤ m.pc.toNat + 1 ∧ f = Memory.blockFault m.pc.toNat) ∨
      ∃ w i, m.NextWord w ∧ Instruction.Spells i w ∧ m.Refuses i f := by
  have pair : m.cycle.1 = .error f ↔ ∃ later, m.cycle = (.error f, later) := by
    constructor
    · intro first
      exact ⟨m.cycle.2, cycle_eq_of_fst first⟩
    · rintro ⟨later, equal⟩
      rw [equal]
  simp only [pair, cycle_eq_error_iff running, Memory.word_eq_error_iff, refuses_fetched]
  constructor
  · rintro ⟨later, ⟨unfetched, _⟩ | ⟨w, read, refused, _⟩⟩
    · exact .inl unfetched
    · refine .inr ⟨w.toNat, .decode w, Memory.word_eq_ok_iff.mp read, ?_, refused⟩
      rcases Instruction.spells_decode w with spelled | unknown
      · exact spelled
      · rw [unknown] at refused
        exact refused.elim
  · rintro (unfetched | ⟨w, i, held, spelled, refused⟩)
    · exact ⟨_, .inl ⟨unfetched, rfl⟩⟩
    · obtain ⟨v, read, same⟩ := m.memory.word_of_inside held.1
      obtain rfl := held.unique same
      rw [← Instruction.decode_of_spells spelled] at refused
      exact ⟨_, .inr ⟨v, read, refused, rfl⟩⟩

/-- Where the next word is known, the cycle faults if the instruction it spells is refused. -/
theorem cycle_fst_eq_error_iff_refuses {w : Nat} {i : Instruction} (running : m.halted = false)
    (next : m.NextWord w) (spelled : Instruction.Spells i w) :
    m.cycle.1 = .error f ↔ m.Refuses i f := by
  rw [cycle_fst_eq_error_iff running]
  constructor
  · rintro (⟨outside, _⟩ | ⟨v, j, held, other, refused⟩)
    · exact absurd next.1 (Nat.not_lt.mpr outside)
    · obtain rfl := next.unique held
      obtain ⟨u, _, same⟩ := m.memory.word_of_inside next.1
      obtain rfl := next.unique same
      rwa [← Instruction.decode_of_spells spelled, Instruction.decode_of_spells other]
  · intro refused
    exact .inr ⟨w, i, next, spelled, refused⟩

/-- The outcome of a cycle whose instruction can be refused for one reason only. -/
theorem cycle_fst_eq_ite {w : Nat} {i : Instruction} {p : Prop} [Decidable p]
    (running : m.halted = false) (next : m.NextWord w) (spelled : Instruction.Spells i w)
    (refuses : ∀ g, m.Refuses i g ↔ p ∧ g = f) :
    m.cycle.1 = if p then .error f else .ok () := by
  split
  · rename_i reason
    exact (cycle_fst_eq_error_iff_refuses running next spelled).mpr
      ((refuses f).mpr ⟨reason, rfl⟩)
  · rename_i none
    cases result : m.cycle.1 with
    | error g =>
      have refused := (cycle_fst_eq_error_iff_refuses running next spelled).mp result
      exact absurd ((refuses g).mp refused).1 none
    | ok _ => rfl

theorem faultDue_of_refuses {w : Nat} {i : Instruction} (next : m.NextWord w)
    (spelled : Instruction.Spells i w) (refused : m.Refuses i f) : FaultDue m f := by
  cases i
  case ret =>
    obtain ⟨unused, rfl⟩ := refused
    exact .underflow (spelled ▸ next) unused
  case call target =>
    obtain ⟨full, rfl⟩ := refused
    have value : (UInt16.ofNat target).toNat = target := by
      rw [UInt16.toNat_ofNat']
      omega
    exact .overflow _ (by omega) (by rw [value]; exact spelled ▸ next) full
  case draw x y n =>
    obtain ⟨long, rfl⟩ := refused
    exact .sprite x y n (spelled ▸ next) long
  case skipIfPressed x =>
    obtain ⟨large, rfl⟩ := refused
    exact .line x (.inl (spelled ▸ next)) large
  case skipUnlessPressed x =>
    obtain ⟨large, rfl⟩ := refused
    exact .line x (.inr (spelled ▸ next)) large
  case pointGlyph x =>
    obtain ⟨large, rfl⟩ := refused
    exact .glyph x (spelled ▸ next) large
  case storeDecimal x =>
    obtain ⟨long, rfl⟩ := refused
    exact .digits x (spelled ▸ next) long
  case storeRegisters x =>
    obtain ⟨long, rfl⟩ := refused
    exact .registers x (.inl (spelled ▸ next)) long
  case loadRegisters x =>
    obtain ⟨long, rfl⟩ := refused
    exact .registers x (.inr (spelled ▸ next)) long
  all_goals exact refused.elim

theorem refuses_of_faultDue (due : FaultDue m f) :
    (memorySize ≤ m.pc.toNat + 1 ∧ f = Memory.blockFault m.pc.toNat) ∨
      ∃ w i, m.NextWord w ∧ Instruction.Spells i w ∧ m.Refuses i f := by
  cases due with
  | outside above =>
    refine .inl ⟨by omega, ?_⟩
    rw [Memory.blockFault, Nat.max_eq_right above]
  | cut last =>
    refine .inl ⟨by omega, ?_⟩
    rw [Memory.blockFault, Nat.max_eq_left (by omega)]
  | underflow next unused => exact .inr ⟨_, .ret, next, rfl, unused, rfl⟩
  | overflow nnn narrow next full =>
    exact .inr ⟨_, .call ⟨nnn.toNat, narrow⟩, next, rfl, full, by rw [UInt16.ofNat_toNat]⟩
  | sprite x y n next long => exact .inr ⟨_, .draw x y n, next, rfl, long, rfl⟩
  | digits x next long => exact .inr ⟨_, .storeDecimal x, next, rfl, long, rfl⟩
  | registers x next long =>
    rcases next with stored | loaded
    · exact .inr ⟨_, .storeRegisters x, stored, rfl, long, rfl⟩
    · exact .inr ⟨_, .loadRegisters x, loaded, rfl, long, rfl⟩
  | glyph x next large => exact .inr ⟨_, .pointGlyph x, next, rfl, large, rfl⟩
  | line x next large =>
    rcases next with wanted | unwanted
    · exact .inr ⟨_, .skipIfPressed x, wanted, rfl, large, rfl⟩
    · exact .inr ⟨_, .skipUnlessPressed x, unwanted, rfl, large, rfl⟩

theorem cycle_fault_iff_due (running : m.halted = false) :
    m.cycle.1 = .error f ↔ FaultDue m f := by
  rw [cycle_fst_eq_error_iff running]
  constructor
  · rintro (⟨outside, rfl⟩ | ⟨w, i, next, spelled, refused⟩)
    · by_cases above : memorySize ≤ m.pc.toNat
      · rw [Memory.blockFault, Nat.max_eq_right above]
        exact .outside above
      · rw [Memory.blockFault, Nat.max_eq_left (by omega)]
        exact .cut (by omega)
    · exact faultDue_of_refuses next spelled refused
  · exact refuses_of_faultDue

/-- A cycle of a running machine faults exactly when a fault is due, with that fault and no other.
When none is due, which is so for every word that is no instruction, the cycle succeeds and the
machine runs on. -/
theorem cycle_faults_exactly (m : Machine) (running : m.halted = false) :
    (∀ f, m.cycle.1 = .error f ↔ FaultDue m f) ∧
      ((∀ f, ¬ FaultDue m f) → m.cycle.1 = .ok () ∧ m.cycle.2.halted = false) := by
  refine ⟨fun f => cycle_fault_iff_due running, ?_⟩
  intro quiet
  have success : m.cycle.1 = .ok () := by
    cases result : m.cycle.1 with
    | error g => exact absurd ((cycle_fault_iff_due running).mp result) (quiet g)
    | ok _ => rfl
  exact ⟨success, halted_of_cycle_ok (cycle_eq_of_fst success)⟩

/-- About to come back from a call that was never made. -/
def strayReturn : Machine :=
  { fresh ⟨Vector.replicate 8 0, 0⟩ with memory := Memory.blank.write 0x200 [0x00, 0xEE] }

theorem cycle_faults_exactly_strayReturn :
    strayReturn.halted = false ∧ strayReturn.cycle.1 = .error .stackUnderflow :=
  ⟨rfl, ((cycle_faults_exactly strayReturn rfl).1 _).mpr
    (.underflow ⟨by decide, by decide +kernel⟩ rfl)⟩

/-! ## What a fault leaves behind -/

/-- `after` is what a faulting cycle may make of the running machine `m`: it has stopped, the key
events that were waiting are in, and the word at the program counter has been fetched unless it was
the fetch that failed. -/
structure Aborted (m after : Machine) : Prop where
  memory : after.memory = m.memory
  registers : after.registers = m.registers
  index : after.index = m.index
  stack : after.stack = m.stack
  screen : after.screen = m.screen
  redraw : after.redraw = m.redraw
  delay : after.delay = m.delay
  sound : after.sound = m.sound
  generator : after.generator = m.generator
  lines : after.keypad.lines = m.keypad.pending.foldl
    (fun lines e => lines.setIfInBounds e.key.toNat e.isPress) m.keypad.lines
  drained : after.keypad.pending = []
  halted : after.halted = true
  fetch : (memorySize ≤ m.pc.toNat + 1 ∧ after.pc = m.pc ∧ after.opcode = m.opcode) ∨
    (m.NextWord after.opcode.toNat ∧ after.pc.toNat = m.pc.toNat + 2)

/-- A fault stops the machine and has no other effect: nothing that the faulting instruction does
is left half done. -/
theorem cycle_fault_atomic (running : m.halted = false) (faulted : m.cycle = (.error f, after)) :
    Aborted m after := by
  have lines := Keypad.lines_foldl_apply m.keypad.pending { m.keypad with pending := [] }
  have drained := m.keypad.pending_drain
  rcases (cycle_eq_error_iff running).mp faulted with ⟨unread, rfl⟩ | ⟨w, read, _, rfl⟩
  · have outside := (Memory.word_eq_error_iff.mp unread).1
    exact ⟨rfl, rfl, rfl, rfl, rfl, rfl, rfl, rfl, rfl, lines, drained, rfl,
      .inl ⟨outside, rfl, rfl⟩⟩
  · have held := Memory.word_eq_ok_iff.mp read
    have moved := toNat_pc_fetched read
    exact ⟨rfl, rfl, rfl, rfl, rfl, rfl, rfl, rfl, rfl, lines, drained, rfl, .inr ⟨held, moved⟩⟩

/-- About to draw fifteen rows with eight bytes left to read, while a press waits in the queue and
the delay timer runs. -/
def clippedSprite : Machine :=
  { fresh ⟨Vector.replicate 8 0, 0⟩ with
    memory := Memory.blank.write 0x200 [0xD0, 0x1F]
    index := 0xFF8
    keypad := { Keypad.released with pending := [.pressed 3] }
    delay := ⟨5⟩ }

theorem nextWord_clippedSprite : clippedSprite.NextWord 0xD01F :=
  ⟨by decide, by decide +kernel⟩

theorem cycle_fault_atomic_clippedSprite :
    clippedSprite.halted = false ∧
      clippedSprite.cycle = (.error (.addressOutOfRange 0x1000), clippedSprite.cycle.2) ∧
      Aborted clippedSprite clippedSprite.cycle.2 := by
  have due : FaultDue clippedSprite (.addressOutOfRange 0x1000) :=
    .sprite 0 1 15 nextWord_clippedSprite (by decide)
  have faulted := cycle_eq_of_fst ((cycle_fault_iff_due rfl).mpr due)
  exact ⟨rfl, faulted, cycle_fault_atomic rfl faulted⟩

end Machine

end Chip8

import Chip8.Machine.Cycle
import Chip8.Proofs.Execution

/-!
# What a cycle can do

A cycle of a running machine ends in one of three ways: the fetch faults, the instruction faults,
or both succeed and the timers run. Each way is one disjunct of an equivalence that says what the
machine is then (`cycle_eq_error_iff`, `cycle_eq_ok_iff`), so that nothing else has to look into
the definition of a cycle.
-/

namespace Chip8

namespace Memory

/-- A big-endian word lies at an address, both bytes inside memory. -/
def HoldsWord (m : Memory) (address word : Nat) : Prop :=
  ∃ inside : address + 1 < memorySize,
    word = 0x100 * (m.bytes[address]).toNat + (m.bytes[address + 1]).toNat

theorem toNat_bigEndian (high low : UInt8) :
    (high.toUInt16 <<< 8 ||| low.toUInt16).toNat = 0x100 * high.toNat + low.toNat := by
  have highBound := high.toNat_lt
  have lowBound : low.toNat < 2 ^ 8 := low.toNat_lt
  have shifted : (high.toUInt16 <<< 8).toNat = high.toNat <<< 8 := by
    rw [UInt16.toNat_shiftLeft, UInt8.toNat_toUInt16]
    change high.toNat <<< 8 % 2 ^ 16 = _
    rw [Nat.shiftLeft_eq]
    omega
  rw [UInt16.toNat_or, shifted, UInt8.toNat_toUInt16, ← Nat.shiftLeft_add_eq_or_of_lt lowBound,
    Nat.shiftLeft_eq]
  omega

theorem word_of_inside (m : Memory) {address : Nat} (inside : address + 1 < memorySize) :
    ∃ w, m.word address = .ok w ∧ m.HoldsWord address w.toNat := by
  refine ⟨(m.bytes[address]).toUInt16 <<< 8 ||| (m.bytes[address + 1]).toUInt16, ?_, inside, ?_⟩
  · simp only [word, get, dif_pos inside, dif_pos (Nat.lt_of_succ_lt inside)]
  · exact toNat_bigEndian _ _

/-- A word that is cut off lacks the first of its bytes that is outside. -/
theorem word_of_outside (m : Memory) {address : Nat} (outside : memorySize ≤ address + 1) :
    m.word address = .error (blockFault address) := by
  by_cases first : address < memorySize
  · have last : address + 1 = memorySize := by omega
    simp [word, get, first, blockFault, last]
    omega
  · have missing : max memorySize address = address := by omega
    simp [word, get, first, blockFault, missing]

theorem HoldsWord.unique {m : Memory} {address v w : Nat} (first : m.HoldsWord address v)
    (second : m.HoldsWord address w) : v = w := by
  obtain ⟨_, rfl⟩ := first
  obtain ⟨_, rfl⟩ := second
  rfl

theorem word_eq_ok_iff {m : Memory} {address : Nat} {w : UInt16} :
    m.word address = .ok w ↔ m.HoldsWord address w.toNat := by
  by_cases inside : address + 1 < memorySize
  · obtain ⟨v, read, held⟩ := m.word_of_inside inside
    rw [read]
    constructor
    · intro equal
      cases equal
      exact held
    · intro other
      rw [UInt16.toNat_inj.mp (held.unique other)]
  · rw [m.word_of_outside (Nat.le_of_not_lt inside)]
    constructor
    · intro impossible
      cases impossible
    · rintro ⟨there, _⟩
      exact absurd there inside

theorem word_eq_error_iff {m : Memory} {address : Nat} {f : Fault} :
    m.word address = .error f ↔ memorySize ≤ address + 1 ∧ f = blockFault address := by
  by_cases inside : address + 1 < memorySize
  · obtain ⟨w, read, _⟩ := m.word_of_inside inside
    rw [read]
    constructor
    · intro impossible
      cases impossible
    · rintro ⟨outside, _⟩
      omega
  · rw [m.word_of_outside (Nat.le_of_not_lt inside)]
    simp [Nat.le_of_not_lt inside, eq_comm]

end Memory

namespace Machine

variable {m after : Machine} {f : Fault}

/-- The machine that has drained its key queue and fetched the word `w`, about to execute it. -/
def fetched (m : Machine) (w : UInt16) : Machine :=
  { m.drainKeys with pc := m.pc + 2, opcode := w }

/-- Where a word can be fetched, moving past it does not wrap. -/
theorem toNat_pc_fetched {w : UInt16} (read : m.memory.word m.pc.toNat = .ok w) :
    (m.fetched w).pc.toNat = m.pc.toNat + 2 := by
  have inside : m.pc.toNat + 1 < 4096 := (Memory.word_eq_ok_iff.mp read).1
  exact toNat_pc_advance (m := m) (by omega)

/-- The fetch of a machine that has drained its key queue. -/
theorem fetch_drainKeys (m : Machine) :
    m.drainKeys.fetch =
      match m.memory.word m.pc.toNat with
      | .error g => (.error g, m.drainKeys)
      | .ok w => (.ok (.decode w), m.fetched w) := by
  simp only [fetch, nextWord, attempt, drainKeys]
  cases m.memory.word m.pc.toNat with
  | error g => rfl
  | ok w => rfl

theorem fetched_of_fetch {i : Instruction} (success : m.drainKeys.fetch = (.ok i, after)) :
    ∃ w, m.memory.word m.pc.toNat = .ok w ∧ after = m.fetched w := by
  rw [fetch_drainKeys] at success
  cases read : m.memory.word m.pc.toNat with
  | error g =>
    rw [read] at success
    cases success
  | ok w =>
    rw [read] at success
    cases success
    exact ⟨w, rfl, rfl⟩

/-- The instruction that a word stands for, executed by the machine that has fetched it. -/
theorem dispatch_drainKeys (m : Machine) :
    m.drainKeys.dispatch =
      match m.memory.word m.pc.toNat with
      | .error g => (.error g, m.drainKeys)
      | .ok w => (m.fetched w).execute (.decode w) := by
  simp only [dispatch, fetch_drainKeys]
  cases m.memory.word m.pc.toNat with
  | error g => rfl
  | ok w => rfl

/-- A stopped machine does nothing in a cycle. -/
theorem cycle_of_halted (stopped : m.halted = true) : m.cycle = (.error .halted, m) := by
  simp [cycle, stopped]

/-- A cycle that can fetch its word is the execution of it and what comes after. -/
theorem cycle_of_word {w : UInt16} (running : m.halted = false)
    (read : m.memory.word m.pc.toNat = .ok w) :
    m.cycle =
      match (m.fetched w).execute (.decode w) with
      | (.error g, executed) => (.error g, executed.halt)
      | (.ok (), executed) => (.ok (), executed.tickTimers) := by
  rcases result : (m.fetched w).execute (.decode w) with ⟨g | ⟨⟩, executed⟩ <;>
    simp only [cycle, running, Bool.false_eq_true, if_false, dispatch_drainKeys, read, result]

/-- The two ways in which a cycle of a running machine faults. -/
theorem cycle_eq_error_iff (running : m.halted = false) :
    m.cycle = (.error f, after) ↔
      (m.memory.word m.pc.toNat = .error f ∧ after = m.drainKeys.halt) ∨
      ∃ w, m.memory.word m.pc.toNat = .ok w ∧ (m.fetched w).Refuses (.decode w) f ∧
        after = (m.fetched w).halt := by
  simp only [cycle, running, Bool.false_eq_true, if_false, dispatch_drainKeys]
  cases m.memory.word m.pc.toNat with
  | error g => simp [eq_comm]
  | ok w =>
    simp only [reduceCtorEq, false_and, Except.ok.injEq, exists_eq_left', false_or]
    constructor
    · intro faulted
      split at faulted
      · rename_i g stopped executed
        cases faulted
        obtain ⟨refused, rfl⟩ := execute_eq_error_iff.mp executed
        exact ⟨refused, rfl⟩
      · cases faulted
    · rintro ⟨refused, rfl⟩
      rw [execute_eq_error_iff.mpr ⟨refused, rfl⟩]

/-- The one way in which a cycle succeeds. -/
theorem cycle_eq_ok_iff (running : m.halted = false) :
    m.cycle = (.ok (), after) ↔
      ∃ w executed, m.memory.word m.pc.toNat = .ok w ∧
        (m.fetched w).execute (.decode w) = (.ok (), executed) ∧ after = executed.tickTimers := by
  simp only [cycle, running, Bool.false_eq_true, if_false, dispatch_drainKeys]
  cases m.memory.word m.pc.toNat with
  | error g => simp
  | ok w =>
    simp only [Except.ok.injEq]
    constructor
    · intro success
      split at success
      · cases success
      · rename_i executed result
        cases success
        exact ⟨w, executed, rfl, result, rfl⟩
    · rintro ⟨_, executed, rfl, result, rfl⟩
      rw [result]

/-- Only a running machine succeeds in a cycle. -/
theorem running_of_cycle_ok (success : m.cycle = (.ok (), after)) : m.halted = false := by
  cases running : m.halted with
  | true =>
    rw [cycle_of_halted running] at success
    cases success
  | false => rfl

/-- A cycle that succeeds leaves the machine running. -/
theorem halted_of_cycle_ok (success : m.cycle = (.ok (), after)) : after.halted = false := by
  have running := running_of_cycle_ok success
  obtain ⟨w, executed, _, result, rfl⟩ := (cycle_eq_ok_iff running).mp success
  have kept := halted_execute (m.fetched w) (.decode w)
  rw [result] at kept
  exact kept.trans running

/-- A fault changes nothing but what the drain and the fetch have done, and it stops the machine. -/
theorem frame_of_cycle_error (faulted : m.cycle = (.error f, after)) :
    ∃ pc keypad opcode, after = { m with pc, keypad, opcode, halted := true } := by
  cases running : m.halted with
  | true =>
    rw [cycle_of_halted running] at faulted
    cases faulted
    refine ⟨m.pc, m.keypad, m.opcode, ?_⟩
    rw [← running]
  | false =>
    rcases (cycle_eq_error_iff running).mp faulted with ⟨_, rfl⟩ | ⟨w, _, _, rfl⟩
    · exact ⟨m.pc, m.keypad.drain, m.opcode, rfl⟩
    · exact ⟨m.pc + 2, m.keypad.drain, w, rfl⟩

/-- A cycle that faults leaves the machine stopped. -/
theorem halted_of_cycle_error (faulted : m.cycle = (.error f, after)) : after.halted = true := by
  obtain ⟨_, _, _, rfl⟩ := frame_of_cycle_error faulted
  rfl

/-- The timers have no part in where a cycle that succeeds goes on. -/
theorem moves_of_cycle_ok (success : m.cycle = (.ok (), after)) :
    ∃ w, m.memory.word m.pc.toNat = .ok w ∧ (m.fetched w).Moves after (.decode w) := by
  obtain ⟨w, executed, read, result, rfl⟩ :=
    (cycle_eq_ok_iff (running_of_cycle_ok success)).mp success
  have moves := moves_of_execute result
  refine ⟨w, read, ?_⟩
  cases decoded : Instruction.decode w <;> rw [decoded] at moves <;> exact moves

/-- A fault leaves the call stack alone, and the program counter no further than past the word. -/
theorem moves_of_cycle_error (faulted : m.cycle = (.error f, after)) :
    after.stack = m.stack ∧
      (after.pc = m.pc ∨
        ∃ w, m.memory.word m.pc.toNat = .ok w ∧ after.pc = (m.fetched w).pc) := by
  cases running : m.halted with
  | true =>
    rw [cycle_of_halted running] at faulted
    cases faulted
    exact ⟨rfl, .inl rfl⟩
  | false =>
    rcases (cycle_eq_error_iff running).mp faulted with ⟨_, rfl⟩ | ⟨w, read, _, rfl⟩
    · exact ⟨rfl, .inl rfl⟩
    · exact ⟨rfl, .inr ⟨w, read, rfl⟩⟩

end Machine

end Chip8

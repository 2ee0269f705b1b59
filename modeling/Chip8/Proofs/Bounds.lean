import Chip8.Proofs.Runs
import Chip8.Snapshot

/-!
# Bounds of every reachable state

A fetch leaves the program counter between 2 and 0x1000, a skip adds two to that, and Bnnn jumps to
0xFFF + 0xFF = 0x10FE at most. A return jumps to what a call has stored, so the bound on the program
counter and those on the slots of the call stack have to be kept together (`Bounded`). After every
run of a driver's actions on a fresh machine they hold (`bounded_after`), and with them everything
that a snapshot promises of its fields (`snapshot_after_bounded`).
-/

namespace Chip8

namespace CallStack

variable {s after : CallStack} {back target : UInt16}

/-- Every slot holds an address that can follow a fetched word, or nothing yet; the slots of calls
in progress do hold one. -/
structure Bounded (s : CallStack) : Prop where
  slots : ∀ k : Fin callLevels, s.slots[k].toNat ≤ 0x1000
  live : ∀ k : Fin callLevels, k.val < s.depth → 2 ≤ s.slots[k].toNat

theorem bounded_empty : Bounded empty where
  slots k := by simp [empty]
  live k used := absurd used (Nat.not_lt_zero k)

theorem Bounded.push (bounded : Bounded s) (low : 2 ≤ back.toNat) (high : back.toNat ≤ 0x1000)
    (pushed : s.push back target = .ok after) : Bounded after := by
  obtain ⟨depth, stored⟩ := slots_push pushed
  constructor
  · intro k
    change (after.slots[k.val]).toNat ≤ 0x1000
    rw [stored k.val k.isLt]
    split
    · exact high
    · exact bounded.slots k
  · intro k used
    change 2 ≤ (after.slots[k.val]).toNat
    rw [stored k.val k.isLt]
    split
    · exact low
    · exact bounded.live k (by omega)

theorem Bounded.pop (bounded : Bounded s) (popped : s.pop = .ok (back, after)) :
    (2 ≤ back.toNat ∧ back.toNat ≤ 0x1000) ∧ Bounded after := by
  obtain ⟨depth, kept, last, rfl⟩ := slots_pop popped
  refine ⟨⟨bounded.live ⟨after.depth, last⟩ ?_, bounded.slots ⟨after.depth, last⟩⟩, ?_, ?_⟩
  · simp only
    omega
  · intro k
    rw [kept]
    exact bounded.slots k
  · intro k below
    rw [kept]
    exact bounded.live k (by omega)

end CallStack

namespace Machine

variable {m after : Machine}

/-! ## The program counter -/

theorem toNat_jumpOffset (target : Address) (byte : UInt8) :
    (UInt16.ofNat target + byte.toUInt16).toNat ≤ 0x10FE := by
  have bound := byte.toNat_lt
  rw [UInt16.toNat_add, toNat_ofNat_address, UInt8.toNat_toUInt16]
  omega

/-- Where a machine that has fetched an instruction can be once that has succeeded. -/
theorem bounds_of_moves {i : Instruction} (low : 2 ≤ m.pc.toNat) (high : m.pc.toNat ≤ 0x1000)
    (stack : m.stack.Bounded) (moves : m.Moves after i) :
    after.pc.toNat ≤ 0x10FE ∧ after.stack.Bounded := by
  have advanced := toNat_pc_advance (m := m) (by omega)
  have back := toNat_pc_stepBack low
  cases i
  case ret =>
    -- only here the program counter gets its value from the stack, so only here the slots matter
    obtain ⟨⟨_, bound⟩, rest⟩ := stack.pop moves
    exact ⟨by omega, rest⟩
  case call target =>
    obtain ⟨pushed, jumped⟩ := moves
    rw [jumped, toNat_ofNat_address]
    exact ⟨by omega, stack.push low high pushed⟩
  case jump target =>
    obtain ⟨same, jumped⟩ := moves
    rw [jumped, toNat_ofNat_address, same]
    exact ⟨by omega, stack⟩
  case jumpOffset target =>
    obtain ⟨same, jumped⟩ := moves
    rw [jumped, same]
    exact ⟨toNat_jumpOffset target _, stack⟩
  case skipIfByte | skipUnlessByte | skipIfSame | skipUnlessSame | skipIfPressed
      | skipUnlessPressed =>
    obtain ⟨same, stays | skips⟩ := moves
    · rw [stays, same]
      exact ⟨by omega, stack⟩
    · rw [skips, same]
      exact ⟨by omega, stack⟩
  case awaitKey =>
    obtain ⟨same, stays | waits⟩ := moves
    · rw [stays, same]
      exact ⟨by omega, stack⟩
    · rw [waits, same]
      exact ⟨by omega, stack⟩
  all_goals
    obtain ⟨same, stays⟩ := moves
    rw [stays, same]
    exact ⟨by omega, stack⟩

/-! ## One action -/

/-- The bounds that every action of a driver keeps. -/
structure Bounded (m : Machine) : Prop where
  pc : m.pc.toNat ≤ 0x10FE
  stack : m.stack.Bounded
  screen : m.screen.Binary

theorem bounded_fresh (g : Generator) : Bounded (fresh g) where
  pc := by
    have start : (fresh g).pc = 0x200 := rfl
    rw [start]
    decide
  stack := CallStack.bounded_empty
  screen := Screen.binary_blank

theorem binary_cycle (binary : m.screen.Binary) : m.cycle.2.screen.Binary := by
  rcases result : m.cycle with ⟨_ | _, after⟩
  · obtain ⟨_, _, _, rfl⟩ := frame_of_cycle_error result
    exact binary
  · obtain ⟨w, executed, _, success, rfl⟩ :=
      (cycle_eq_ok_iff (running_of_cycle_ok result)).mp result
    have kept := binary_execute (m := m.fetched w) binary (.decode w)
    rw [success] at kept
    exact kept

/-- A word that has been fetched lies inside memory, and the program counter right behind it. -/
theorem bounds_fetched {w : UInt16} (read : m.memory.word m.pc.toNat = .ok w) :
    2 ≤ (m.fetched w).pc.toNat ∧ (m.fetched w).pc.toNat ≤ 0x1000 := by
  have inside : m.pc.toNat + 1 < 4096 := (Memory.word_eq_ok_iff.mp read).1
  rw [toNat_pc_fetched read]
  omega

theorem Bounded.cycle (bounded : Bounded m) : Bounded m.cycle.2 := by
  have screen := binary_cycle bounded.screen
  rcases result : m.cycle with ⟨f | _, after⟩
  · obtain ⟨same, stays | ⟨w, read, fetched⟩⟩ := moves_of_cycle_error result
    · rw [result] at screen
      exact ⟨stays ▸ bounded.pc, same ▸ bounded.stack, screen⟩
    · rw [result] at screen
      have bounds := bounds_fetched read
      exact ⟨by rw [fetched]; omega, same ▸ bounded.stack, screen⟩
  · obtain ⟨w, read, moves⟩ := moves_of_cycle_ok result
    have bounds := bounds_fetched read
    obtain ⟨pc, stack⟩ := bounds_of_moves bounds.1 bounds.2 bounded.stack moves
    rw [result] at screen
    exact ⟨pc, stack, screen⟩

theorem Bounded.perform {a : Action} (driver : a.isDriver) (bounded : Bounded m) :
    Bounded (m.perform a).2 := by
  by_cases cycles : a = .cycle
  · rw [cycles, perform_cycle]
    exact bounded.cycle
  · obtain ⟨memory, keypad, halted, redraw, effect⟩ := perform_of_isDriver driver cycles
    rw [effect]
    exact ⟨bounded.pc, bounded.stack, bounded.screen⟩

/-! ## Whole runs -/

theorem bounded_after (g : Generator) {actions : List Action} (driven : ∀ a ∈ actions, a.isDriver) :
    Bounded ((fresh g).after actions) :=
  after_induction (fun _ _ driver bounded => bounded.perform driver) driven (bounded_fresh g)

end Machine

/-- What is promised of the fields of a snapshot. -/
structure Snapshot.Bounded (s : Snapshot) : Prop where
  pc : s.pc.toNat ≤ 0x10FE
  depth : s.depth.toNat ≤ 16
  slots : ∀ k : Fin 16, s.stack[k].toNat ≤ 0x1000
  live : ∀ k : Fin 16, k.val < s.depth.toNat → 2 ≤ s.stack[k].toNat
  cells : ∀ cell ∈ s.screen, cell = 0 ∨ cell = 1
  memory : s.memory.size = 4096
  screen : s.screen.size = 64 * 32

namespace Machine

variable {m : Machine}

theorem toNat_depth_snapshot (m : Machine) : m.snapshot.depth.toNat = m.stack.depth := by
  have levels : m.stack.depth ≤ 16 := m.stack.depth_le
  change (UInt8.ofNat m.stack.depth).toNat = _
  rw [UInt8.toNat_ofNat']
  omega

theorem Bounded.snapshot (bounded : Bounded m) : m.snapshot.Bounded where
  pc := bounded.pc
  depth := by
    rw [toNat_depth_snapshot]
    exact m.stack.depth_le
  slots := bounded.stack.slots
  live k used := by
    rw [toNat_depth_snapshot] at used
    exact bounded.stack.live k used
  cells cell member := by
    obtain ⟨k, inside, rfl⟩ := Array.mem_iff_getElem.mp member
    have size : m.snapshot.screen.size = screenWidth * screenHeight :=
      m.screen.cells.size_toArray
    exact bounded.screen ⟨k, size ▸ inside⟩
  memory := m.memory.bytes.size_toArray
  screen := m.screen.cells.size_toArray

/-- Neither the fetch, a skip nor the step back of a wait for a key takes the program counter past
either end of its range. -/
def NeverWraps (m : Machine) : Prop :=
  ∀ i fetched, m.drainKeys.fetch = (.ok i, fetched) →
    fetched.pc.toNat = m.pc.toNat + 2 ∧ fetched.advance.pc.toNat = fetched.pc.toNat + 2 ∧
      fetched.stepBack.pc.toNat + 2 = fetched.pc.toNat

theorem neverWraps (m : Machine) : m.NeverWraps := by
  intro i fetched success
  obtain ⟨w, read, rfl⟩ := fetched_of_fetch success
  have bounds := bounds_fetched read
  exact ⟨toNat_pc_fetched read, toNat_pc_advance (by omega), toNat_pc_stepBack bounds.1⟩

/-- After every run of a driver's actions on a fresh machine, the fields of its snapshot are within
their bounds, and the next cycle does not wrap the program counter. -/
theorem snapshot_after_bounded (g : Generator) {actions : List Action}
    (driven : ∀ a ∈ actions, a.isDriver) :
    ((fresh g).after actions).snapshot.Bounded ∧ ((fresh g).after actions).NeverWraps :=
  ⟨(bounded_after g driven).snapshot, neverWraps _⟩

/-- A program that jumps as far as a jump can go. -/
def farJump : List Action := [.load .program [0x60, 0xFF, 0xBF, 0xFF], .cycle, .cycle]

theorem snapshot_after_bounded_farJump :
    (∀ a ∈ farJump, a.isDriver) ∧
      ((fresh ⟨Vector.replicate 8 0, 0⟩).after farJump).snapshot.Bounded ∧
      ((fresh ⟨Vector.replicate 8 0, 0⟩).after farJump).snapshot.pc.toNat = 0x10FE := by
  have driven : ∀ a ∈ farJump, a.isDriver := by decide
  exact ⟨driven, (snapshot_after_bounded ⟨Vector.replicate 8 0, 0⟩ driven).1, by decide +kernel⟩

end Machine

end Chip8

import Chip8.Proofs.Decoding
import Chip8.Proofs.Faults
import Chip8.Proofs.Runs

/-!
# Calls and returns over runs

The call stack against a list that knows nothing of slots and depths. The list starts empty, a call
appends the address that follows it, and a return takes the last address away (`dueAfter`). After
every run of a driver's actions the frames of the call stack are that list (`returns_after`), so a
return goes on behind the call it belongs to, whatever was called, stored or pressed in between
(`calls_match_returns`).
-/

namespace Chip8.Machine

variable {m entered : Machine} {due : List Nat}

/-- The return addresses that are due after an action, the latest last: a cycle that executes 2nnn
adds the address behind it, one that executes 00EE takes the last one away. -/
def dueAfter (m : Machine) (due : List Nat) : Action → List Nat
  | .cycle =>
    match m.cycle.1, m.memory.word m.pc.toNat with
    | .ok (), .ok w =>
      if w.toNat / 0x1000 = 2 then due ++ [m.pc.toNat + 2]
      else if w.toNat = 0x00EE then due.dropLast
      else due
    | _, _ => due
  | _ => due

/-- The return addresses that are due after a run, if `due` were before it. -/
def dueAfterRun (m : Machine) (due : List Nat) : List Action → List Nat
  | [] => due
  | a :: actions => dueAfterRun (m.perform a).2 (m.dueAfter due a) actions

/-- The return addresses on the call stack as numbers, outermost call first. -/
def returns (m : Machine) : List Nat := m.stack.frames.map UInt16.toNat

theorem length_returns (m : Machine) : m.returns.length = m.stack.depth := by
  rw [returns, List.length_map, CallStack.length_frames]

theorem stack_of_moves {after : Machine} {i : Instruction} (moves : m.Moves after i)
    (notCall : ∀ target, i ≠ .call target) (notRet : i ≠ .ret) : after.stack = m.stack := by
  cases i
  case call target => exact absurd rfl (notCall target)
  case ret => exact absurd rfl notRet
  all_goals exact moves.1

theorem decode_call {w : UInt16} (family : w.toNat / 0x1000 = 2) :
    ∃ target, Instruction.decode w = .call target := by
  refine ⟨⟨w.toNat % 0x1000, Nat.mod_lt _ (by decide)⟩, Instruction.decode_of_spells ?_⟩
  simp only [Instruction.Spells]
  omega

theorem decode_ret {w : UInt16} (whole : w.toNat = 0x00EE) : Instruction.decode w = .ret :=
  Instruction.decode_of_spells whole

/-! ## One step -/

/-- A call pushes the address behind it. -/
theorem returns_of_call {after : Machine} {w : UInt16} {target : Address}
    (read : m.memory.word m.pc.toNat = .ok w)
    (moves : (m.fetched w).Moves after (.call target)) :
    after.returns = m.returns ++ [m.pc.toNat + 2] := by
  have pushed := CallStack.frames_push moves.1
  have behind := toNat_pc_fetched read
  rw [returns, pushed, List.map_append, List.map_singleton, behind]
  rfl

/-- A return pops the address where it goes on. -/
theorem returns_of_ret {after : Machine} {w : UInt16}
    (moves : (m.fetched w).Moves after .ret) : m.returns = after.returns ++ [after.pc.toNat] := by
  have popped : m.stack.frames = after.stack.frames ++ [after.pc] := CallStack.frames_pop moves
  rw [returns, popped, List.map_append, List.map_singleton]
  rfl

theorem returns_of_cycle_error {after : Machine} {f : Fault}
    (faulted : m.cycle = (.error f, after)) : after.returns = m.returns := by
  rw [returns, (moves_of_cycle_error faulted).1]
  rfl

/-- Any other word leaves the call stack alone. -/
theorem returns_of_other {after : Machine} {w : UInt16} (family : w.toNat / 0x1000 ≠ 2)
    (whole : w.toNat ≠ 0x00EE) (moves : (m.fetched w).Moves after (.decode w)) :
    after.returns = m.returns := by
  have notCall : ∀ target, Instruction.decode w ≠ .call target := by
    intro target decoded
    have spelled : w.toNat = 0x2000 + target := (Instruction.decode_eq_iff (by simp) w).mp decoded
    omega
  have notRet : Instruction.decode w ≠ .ret := by
    intro decoded
    exact whole ((Instruction.decode_eq_iff (by simp) w).mp decoded)
  rw [returns, stack_of_moves moves notCall notRet]
  rfl

theorem returns_cycle (m : Machine) : m.cycle.2.returns = m.dueAfter m.returns .cycle := by
  cases result : m.cycle.1 with
  | error f =>
    rw [returns_of_cycle_error (cycle_eq_of_fst result)]
    simp [dueAfter, result]
  | ok _ =>
    obtain ⟨w, read, moves⟩ := moves_of_cycle_ok (cycle_eq_of_fst result)
    simp only [dueAfter, result, read]
    split
    · rename_i family
      obtain ⟨target, decoded⟩ := decode_call family
      rw [decoded] at moves
      exact returns_of_call read moves
    · rename_i family
      split
      · rename_i whole
        rw [decode_ret whole] at moves
        rw [returns_of_ret moves, List.dropLast_concat]
      · rename_i whole
        exact returns_of_other family whole moves

/-- The frames follow the list through one action of a driver. -/
theorem returns_perform {a : Action} (driver : a.isDriver) :
    (m.perform a).2.returns = m.dueAfter m.returns a := by
  by_cases cycles : a = .cycle
  · rw [cycles, perform_cycle]
    exact m.returns_cycle
  · obtain ⟨memory, keypad, halted, redraw, effect⟩ := perform_of_isDriver driver cycles
    have unchanged : m.dueAfter m.returns a = m.returns := by
      cases a
      case cycle => exact absurd rfl cycles
      all_goals rfl
    rw [effect, unchanged]
    rfl

/-! ## Whole runs -/

/-- The frames follow the list through a run. -/
theorem returns_after {actions : List Action} (driven : ∀ a ∈ actions, a.isDriver) :
    (m.after actions).returns = m.dueAfterRun m.returns actions := by
  induction actions generalizing m with
  | nil => rfl
  | cons a rest ih =>
    have first := returns_perform (m := m) (driven a List.mem_cons_self)
    have later := ih (m := (m.perform a).2) fun b member => driven b (List.mem_cons_of_mem a member)
    rw [after_cons, later, first, dueAfterRun]

/-- An action adds an address, takes the last one away or leaves the list alone. -/
theorem dueAfter_cases (m : Machine) (due : List Nat) (a : Action) :
    (∃ back, m.dueAfter due a = due ++ [back]) ∨ m.dueAfter due a = due.dropLast ∨
      m.dueAfter due a = due := by
  unfold dueAfter
  split
  · split
    · split
      · exact .inl ⟨_, rfl⟩
      · split
        · exact .inr (.inl rfl)
        · exact .inr (.inr rfl)
    · exact .inr (.inr rfl)
  · exact .inr (.inr rfl)

/-- Addresses below a level that the list does not fall under stay where they are. -/
theorem take_dueAfter {a : Action} {level : Nat} (before : level ≤ due.length)
    (behind : level ≤ (m.dueAfter due a).length) :
    (m.dueAfter due a).take level = due.take level := by
  rcases m.dueAfter_cases due a with ⟨back, added⟩ | removed | same
  · rw [added, List.take_append_of_le_length before]
  · rw [removed] at behind ⊢
    rw [List.length_dropLast] at behind
    rw [List.dropLast_eq_take, List.take_take, Nat.min_eq_left behind]
  · rw [same]

/-- A run that never leaves the outermost `level` calls. -/
def StaysWithin (m : Machine) (level : Nat) (actions : List Action) : Prop :=
  ∀ k, level ≤ (m.after (actions.take k)).stack.depth

theorem staysWithin_nil {level : Nat} (here : level ≤ m.stack.depth) : m.StaysWithin level [] := by
  intro k
  rw [List.take_nil]
  exact here

theorem staysWithin_cons {a : Action} {actions : List Action} {level : Nat}
    (here : level ≤ m.stack.depth) (later : (m.perform a).2.StaysWithin level actions) :
    m.StaysWithin level (a :: actions) := by
  intro k
  cases k with
  | zero => exact here
  | succ k => exact later k

/-- A run that never leaves the outermost calls leaves their frames alone. -/
theorem take_returns_after {actions : List Action} {level : Nat}
    (driven : ∀ a ∈ actions, a.isDriver) (within : m.StaysWithin level actions) :
    (m.after actions).returns.take level = m.returns.take level := by
  induction actions generalizing m with
  | nil => rfl
  | cons a rest ih =>
    have first := returns_perform (m := m) (driven a List.mem_cons_self)
    have before : level ≤ m.returns.length := by
      rw [length_returns]
      exact within 0
    have behind : level ≤ (m.dueAfter m.returns a).length := by
      rw [← first, length_returns]
      exact within 1
    have later := ih (m := (m.perform a).2)
      (fun b member => driven b (List.mem_cons_of_mem a member)) (fun k => within (k + 1))
    rw [after_cons, later, first, take_dueAfter before behind]

/-! ## Calls and returns by the list -/

theorem returns_of_cycle_call {target : Address} (next : m.NextWord (0x2000 + target))
    (called : m.cycle = (.ok (), entered)) : entered.returns = m.returns ++ [m.pc.toNat + 2] := by
  obtain ⟨w, read, moves⟩ := moves_of_cycle_ok called
  have whole : w.toNat = 0x2000 + target := (Memory.word_eq_ok_iff.mp read).unique next
  rw [Instruction.decode_of_spells (i := .call target) whole] at moves
  exact returns_of_call read moves

theorem returns_of_cycle_ret {left : Machine} (next : m.NextWord 0x00EE)
    (returned : m.cycle = (.ok (), left)) : m.returns = left.returns ++ [left.pc.toNat] := by
  obtain ⟨w, read, moves⟩ := moves_of_cycle_ok returned
  have whole : w.toNat = 0x00EE := (Memory.word_eq_ok_iff.mp read).unique next
  rw [decode_ret whole] at moves
  exact returns_of_ret moves

/-- A call is refused exactly at the sixteenth level. -/
theorem cycle_call {target : Address} (running : m.halted = false)
    (next : m.NextWord (0x2000 + target)) :
    m.cycle.1 =
      if m.stack.depth = 16 then .error (.stackOverflow (UInt16.ofNat target)) else .ok () :=
  cycle_fst_eq_ite (i := .call target) running next rfl fun _ => Iff.rfl

/-- A return is refused exactly outside all calls. -/
theorem cycle_ret (running : m.halted = false) (next : m.NextWord 0x00EE) :
    m.cycle.1 = if m.stack.depth = 0 then .error .stackUnderflow else .ok () :=
  cycle_fst_eq_ite (i := .ret) running next rfl fun _ => Iff.rfl

/-- The machine carries the list of due addresses on its call stack, and its next call or return
goes by the list. -/
structure CallsMatch (m : Machine) (due : List Nat) : Prop where
  depth : m.stack.depth = due.length
  slots : (m.stack.slots.toList.take due.length).map UInt16.toNat = due
  call : ∀ target : Address, m.halted = false → m.NextWord (0x2000 + target) →
    m.cycle.1 = if due.length = 16 then .error (.stackOverflow (UInt16.ofNat target)) else .ok ()
  ret : m.halted = false → m.NextWord 0x00EE →
    m.cycle.1 = if due = [] then .error .stackUnderflow else .ok ()
  back : ∀ left, m.NextWord 0x00EE → m.cycle = (.ok (), left) →
    due.getLast? = some left.pc.toNat

/-- A call that the machine makes now comes back to the address behind the word that made it,
through the return that takes the frame of this call off the stack, whatever the run does in
between. -/
def ComesBack (m : Machine) : Prop :=
  ∀ (target : Address) (entered left : Machine) (nested : List Action),
    m.NextWord (0x2000 + target) → m.cycle = (.ok (), entered) →
    (∀ a ∈ nested, a.isDriver) → entered.StaysWithin entered.stack.depth nested →
    (entered.after nested).NextWord 0x00EE → (entered.after nested).cycle = (.ok (), left) →
    left.stack.depth = m.stack.depth → left.pc.toNat = m.pc.toNat + 2

theorem callsMatch_returns (m : Machine) : CallsMatch m m.returns where
  depth := m.length_returns.symm
  slots := by rw [length_returns, returns, CallStack.frames]
  call target running next := by
    rw [length_returns]
    exact cycle_call running next
  ret running next := by
    rw [cycle_ret running next, ← length_returns]
    simp only [List.length_eq_zero_iff]
  back left next returned := by
    rw [returns_of_cycle_ret next returned, List.getLast?_concat]

theorem comesBack (m : Machine) : m.ComesBack := by
  intro target entered left nested next called driven within nextRet returned level
  have frames := returns_of_cycle_call next called
  have kept := take_returns_after driven within
  have popped := returns_of_cycle_ret nextRet returned
  -- the nested run ends with the frames that the call left, so the return takes the call's own
  have outer : left.returns.length = m.returns.length := by
    rw [length_returns, length_returns, level]
  have height : (left.returns ++ [left.pc.toNat]).length = entered.returns.length := by
    rw [frames, List.length_append, List.length_append, outer]
    rfl
  have same : left.returns ++ [left.pc.toNat] = m.returns ++ [m.pc.toNat + 2] := by
    rwa [popped, ← length_returns, List.take_length, ← height, List.take_length, frames] at kept
  exact List.head_eq_of_cons_eq (List.append_inj_right same outer)

/-- After every run of a driver's actions on a fresh machine, calls and returns match. -/
theorem calls_match_returns (g : Generator) {actions : List Action}
    (driven : ∀ a ∈ actions, a.isDriver) :
    CallsMatch ((fresh g).after actions) ((fresh g).dueAfterRun [] actions) ∧
      ((fresh g).after actions).ComesBack := by
  have frames : ((fresh g).after actions).returns = (fresh g).dueAfterRun [] actions :=
    returns_after driven
  rw [← frames]
  exact ⟨callsMatch_returns _, comesBack _⟩

/-- A program that calls a subroutine at 0x204, which calls one at 0x208 before it comes back. -/
def subroutineLoad : List Action :=
  [.load .program [0x22, 0x04, 0x12, 0x02, 0x22, 0x08, 0x00, 0xEE, 0x00, 0xEE]]

def beforeCall : Machine := (fresh ⟨Vector.replicate 8 0, 0⟩).after subroutineLoad

def insideCall : Machine := beforeCall.cycle.2

def insideNested : Machine := insideCall.cycle.2

/-- Back from the nested call, about to leave the first one. -/
def behindNested : Machine := insideNested.cycle.2

theorem nextWord_beforeCall : beforeCall.NextWord (0x2000 + (0x204 : Address)) :=
  ⟨by decide, by decide +kernel⟩

theorem cycle_beforeCall : beforeCall.cycle = (.ok (), insideCall) :=
  cycle_eq_of_fst (cycle_call rfl nextWord_beforeCall)

theorem depth_subroutine : beforeCall.stack.depth = 0 ∧ insideCall.stack.depth = 1 ∧
    insideNested.stack.depth = 2 ∧ behindNested.stack.depth = 1 ∧
    behindNested.cycle.2.stack.depth = 0 := by
  decide +kernel

theorem staysWithin_nested : insideCall.StaysWithin 1 [.cycle, .cycle] := by
  obtain ⟨-, outer, inner, back, -⟩ := depth_subroutine
  have deeper : 1 ≤ insideNested.stack.depth := by
    rw [inner]
    decide
  refine staysWithin_cons (Nat.le_of_eq outer.symm) ?_
  rw [perform_cycle]
  change insideNested.StaysWithin 1 [.cycle]
  refine staysWithin_cons deeper ?_
  rw [perform_cycle]
  change behindNested.StaysWithin 1 []
  exact staysWithin_nil (Nat.le_of_eq back.symm)

theorem return_behindNested : behindNested.halted = false ∧ behindNested.NextWord 0x00EE := by
  unfold NextWord Memory.HoldsWord
  decide +kernel

theorem cycle_behindNested : behindNested.cycle = (.ok (), behindNested.cycle.2) := by
  obtain ⟨running, next⟩ := return_behindNested
  obtain ⟨-, -, -, depth, -⟩ := depth_subroutine
  have outcome := cycle_ret running next
  rw [depth, if_neg Nat.one_ne_zero] at outcome
  exact cycle_eq_of_fst outcome

/-- Within both calls two addresses are due, and the first call comes back behind itself. -/
theorem calls_match_returns_subroutine :
    (∀ a ∈ subroutineLoad ++ [.cycle, .cycle], a.isDriver) ∧
      CallsMatch insideNested [0x202, 0x206] ∧ behindNested.cycle.2.pc.toNat = 0x202 := by
  have driven : ∀ a ∈ subroutineLoad ++ [.cycle, .cycle], a.isDriver := by decide
  have due : (fresh ⟨Vector.replicate 8 0, 0⟩).dueAfterRun [] (subroutineLoad ++ [.cycle, .cycle]) =
      [0x202, 0x206] := by decide +kernel
  have within : (fresh ⟨Vector.replicate 8 0, 0⟩).after (subroutineLoad ++ [.cycle, .cycle]) =
      insideNested := by
    rw [after_append, after_cons, perform_cycle, after_cons, perform_cycle, after_nil]
    rfl
  have matched := (calls_match_returns ⟨Vector.replicate 8 0, 0⟩ driven).1
  rw [due, within] at matched
  have loaded : ∀ a ∈ subroutineLoad, a.isDriver := by decide
  obtain ⟨outside, outer, -, -, left⟩ := depth_subroutine
  have nested : insideCall.after [.cycle, .cycle] = behindNested := by
    rw [after_cons, perform_cycle, after_cons, perform_cycle, after_nil]
    rfl
  have resumed := (calls_match_returns ⟨Vector.replicate 8 0, 0⟩ loaded).2 0x204 insideCall
    behindNested.cycle.2 [.cycle, .cycle] nextWord_beforeCall cycle_beforeCall (by decide)
  rw [nested, outer] at resumed
  have back := resumed staysWithin_nested return_behindNested.2 cycle_behindNested
    (left.trans outside.symm)
  have start : beforeCall.pc.toNat + 2 = 0x202 := by decide +kernel
  exact ⟨driven, matched, back.trans start⟩

end Chip8.Machine

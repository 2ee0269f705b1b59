import Chip8.Proofs.Runs

/-!
# Live and dead state

The slots of the call stack at and above its depth, the word fetched last, the redraw flag and the
sound timer are seen from outside, but no instruction reads them. Two machines that agree in
everything else (`SameLive`) agree again after the same action, whatever it is that a driver does,
and give the same answer to it (`perform_sameLive`). Over a run this is an induction, in which the
call stack grows over slots that differ and shrinks back (`run_sameLive`).
-/

namespace Chip8

/-- Two call stacks hold the same calls. The slots that are not in use may differ. -/
structure CallStack.SameLive (s t : CallStack) : Prop where
  depth : t.depth = s.depth
  slots : ∀ (k : Nat) (inside : k < callLevels), k < s.depth → t.slots[k] = s.slots[k]

/-- Two partial results are refused for the same reason, or given and related. -/
inductive Related {α : Type} (R : α → α → Prop) : Except Fault α → Except Fault α → Prop
  | error (f : Fault) : Related R (.error f) (.error f)
  | ok {a b : α} (related : R a b) : Related R (.ok a) (.ok b)

theorem Related.refl {α : Type} (part : Except Fault α) : Related Eq part part := by
  cases part with
  | error f => exact .error f
  | ok a => exact .ok rfl

namespace CallStack

variable {s t : CallStack}

/-- A call fills the same slot of both stacks. -/
theorem SameLive.push (same : SameLive s t) (back target : UInt16) :
    Related SameLive (s.push back target) (t.push back target) := by
  cases first : s.push back target with
  | error f =>
    obtain ⟨full, rfl⟩ := push_eq_error_iff.mp first
    rw [push_eq_error_iff.mpr ⟨same.depth.trans full, rfl⟩]
    exact .error _
  | ok pushed =>
    cases second : t.push back target with
    | error f =>
      have full := same.depth.symm.trans (push_eq_error_iff.mp second).1
      rw [push_eq_error_iff.mpr ⟨full, rfl⟩] at first
      cases first
    | ok pushed' =>
      obtain ⟨depth, slots⟩ := slots_push first
      obtain ⟨depth', slots'⟩ := slots_push second
      refine .ok ⟨by rw [depth', depth, same.depth], fun k inside below => ?_⟩
      rw [slots', slots, same.depth]
      split
      · rfl
      · exact same.slots k inside (by omega)

/-- A return reads the last slot in use, which the stacks share, and leaves it behind as one that is
not in use. -/
theorem SameLive.pop (same : SameLive s t) :
    Related (fun a b => b.1 = a.1 ∧ SameLive a.2 b.2) s.pop t.pop := by
  cases first : s.pop with
  | error f =>
    obtain ⟨unused, rfl⟩ := pop_eq_error_iff.mp first
    rw [pop_eq_error_iff.mpr ⟨same.depth.trans unused, rfl⟩]
    exact .error _
  | ok popped =>
    cases second : t.pop with
    | error f =>
      have unused := same.depth.symm.trans (pop_eq_error_iff.mp second).1
      rw [pop_eq_error_iff.mpr ⟨unused, rfl⟩] at first
      cases first
    | ok popped' =>
      obtain ⟨depth, slots, inside, back⟩ := slots_pop first
      obtain ⟨depth', slots', inside', back'⟩ := slots_pop second
      have level : popped'.2.depth = popped.2.depth := by
        have := same.depth
        omega
      refine .ok ⟨?_, level, fun k inside below => ?_⟩
      · rw [back', back]
        simp only [level]
        exact same.slots popped.2.depth inside (by omega)
      · rw [slots', slots]
        exact same.slots k inside (by omega)

end CallStack

namespace Machine

variable {m n : Machine}

/-- Two machines agree in all that execution depends on. They may differ in the unused slots of the
call stack, the word fetched last, the redraw flag and the sound timer. -/
structure SameLive (m n : Machine) : Prop where
  memory : n.memory = m.memory
  registers : n.registers = m.registers
  pc : n.pc = m.pc
  index : n.index = m.index
  stack : m.stack.SameLive n.stack
  screen : n.screen = m.screen
  keypad : n.keypad = m.keypad
  delay : n.delay = m.delay
  generator : n.generator = m.generator
  halted : n.halted = m.halted

/-- The second machine is the first with its dead state replaced. -/
theorem SameLive.eq (same : SameLive m n) :
    n = { m with stack := n.stack, sound := n.sound, opcode := n.opcode, redraw := n.redraw } := by
  obtain ⟨memory, registers, pc, index, _, screen, keypad, delay, generator, halted⟩ := same
  cases m
  cases n
  simp only at memory registers pc index screen keypad delay generator halted
  subst memory registers pc index screen keypad delay generator halted
  rfl

/-- Two steps give the same answer and leave machines that agree. -/
inductive SameOutcome {α : Type} : α × Machine → α × Machine → Prop
  | intro (answer : α) {left left' : Machine} (kept : SameLive left left') :
    SameOutcome (answer, left) (answer, left')

/-- Agreement passes through a step that a part of the machine can refuse. -/
theorem sameOutcome_attempt {α β : Type} {R : α → α → Prop} {part part' : Except Fault α}
    {next next' : α → Except Fault β × Machine} (same : SameLive m n)
    (parts : Related R part part') (later : ∀ a b, R a b → SameOutcome (next a) (next' b)) :
    SameOutcome (m.attempt part next) (n.attempt part' next') := by
  cases parts with
  | error f => exact .intro _ same
  | ok related => exact later _ _ related

/-- The same for a part that the machines share. -/
theorem sameOutcome_attempt_eq {α β : Type} {part : Except Fault α}
    {next next' : α → Except Fault β × Machine} (same : SameLive m n)
    (later : ∀ a, SameOutcome (next a) (next' a)) :
    SameOutcome (m.attempt part next) (n.attempt part next') := by
  refine sameOutcome_attempt same (Related.refl part) fun a b equal => ?_
  subst equal
  exact later a

/-! ## One instruction -/

theorem execute_sameLive (same : SameLive m n) (i : Instruction) :
    SameOutcome (m.execute i) (n.execute i) := by
  have frames := same.stack
  rw [same.eq]
  rw [same.eq] at same
  generalize n.stack = stack, n.sound = sound, n.opcode = opcode, n.redraw = redraw at *
  cases i
  case ret =>
    refine sameOutcome_attempt same frames.pop ?_
    rintro ⟨back, left⟩ ⟨_, left'⟩ ⟨rfl, kept⟩
    exact .intro _ ⟨rfl, rfl, rfl, rfl, kept, rfl, rfl, rfl, rfl, rfl⟩
  case call target =>
    refine sameOutcome_attempt same (frames.push m.pc (UInt16.ofNat target)) ?_
    intro entered entered' kept
    exact .intro _ ⟨rfl, rfl, rfl, rfl, kept, rfl, rfl, rfl, rfl, rfl⟩
  case draw | storeDecimal | storeRegisters | loadRegisters =>
    refine sameOutcome_attempt_eq same fun given => ?_
    exact .intro _ ⟨rfl, rfl, rfl, rfl, frames, rfl, rfl, rfl, rfl, rfl⟩
  case skipIfPressed | skipUnlessPressed =>
    refine sameOutcome_attempt_eq same fun pressed => ?_
    cases pressed
    · exact .intro _ ⟨rfl, rfl, rfl, rfl, frames, rfl, rfl, rfl, rfl, rfl⟩
    · refine sameOutcome_attempt_eq ?_ fun keypad => ?_
      · exact ⟨rfl, rfl, rfl, rfl, frames, rfl, rfl, rfl, rfl, rfl⟩
      · exact .intro _ ⟨rfl, rfl, rfl, rfl, frames, rfl, rfl, rfl, rfl, rfl⟩
  case skipIfByte | skipUnlessByte | skipIfSame | skipUnlessSame | awaitKey | pointGlyph =>
    simp only [execute, done, skipWhen, awaitKey, pointGlyph]
    split <;> exact .intro _ ⟨rfl, rfl, rfl, rfl, frames, rfl, rfl, rfl, rfl, rfl⟩
  all_goals exact .intro _ ⟨rfl, rfl, rfl, rfl, frames, rfl, rfl, rfl, rfl, rfl⟩

/-! ## One cycle -/

theorem SameLive.drainKeys (same : SameLive m n) : SameLive m.drainKeys n.drainKeys :=
  { same with keypad := congrArg Keypad.drain same.keypad }

theorem SameLive.fetched (same : SameLive m n) (w : UInt16) :
    SameLive (m.fetched w) (n.fetched w) :=
  { same.drainKeys with pc := congrArg (· + 2) same.pc }

theorem SameLive.halt (same : SameLive m n) : SameLive m.halt n.halt :=
  { same with halted := rfl }

theorem SameLive.tickTimers (same : SameLive m n) : SameLive m.tickTimers n.tickTimers :=
  { same with delay := congrArg Timer.tick same.delay }

theorem dispatch_sameLive (same : SameLive m n) :
    SameOutcome m.drainKeys.dispatch n.drainKeys.dispatch := by
  rw [dispatch_drainKeys, dispatch_drainKeys, same.memory, same.pc]
  cases m.memory.word m.pc.toNat with
  | error f => exact .intro _ same.drainKeys
  | ok w => exact execute_sameLive (same.fetched w) (.decode w)

theorem cycle_sameLive (same : SameLive m n) : SameOutcome m.cycle n.cycle := by
  cases stopped : m.halted with
  | true =>
    rw [cycle_of_halted stopped, cycle_of_halted (same.halted.trans stopped)]
    exact .intro _ same
  | false =>
    have dispatched := dispatch_sameLive same
    simp only [cycle, stopped, same.halted.trans stopped, Bool.false_eq_true, if_false]
    generalize m.drainKeys.dispatch = x, n.drainKeys.dispatch = y at dispatched
    obtain ⟨answer, kept⟩ := dispatched
    cases answer with
    | error f => exact .intro _ kept.halt
    | ok _ => exact .intro _ kept.tickTimers

/-! ## Runs -/

/-- A poll of the redraw flag tells the flag, which is dead state. All other answers of a driver's
actions are the same. -/
theorem perform_sameLive (same : SameLive m n) {a : Action} (driver : a.isDriver) :
    (a ≠ .takeRedraw → (n.perform a).1 = (m.perform a).1) ∧
      SameLive (m.perform a).2 (n.perform a).2 := by
  cases a
  case load kind image =>
    simp only [perform, load, same.memory]
    cases m.memory.load kind image with
    | error refused => exact ⟨fun _ => rfl, same⟩
    | ok memory => exact ⟨fun _ => rfl, { same with memory := rfl }⟩
  case cycle =>
    have cycled := cycle_sameLive same
    simp only [perform]
    generalize m.cycle = x, n.cycle = y at cycled
    obtain ⟨answer, kept⟩ := cycled
    cases answer with
    | error f => exact ⟨fun _ => rfl, kept⟩
    | ok _ => exact ⟨fun _ => rfl, kept⟩
  case apply event =>
    exact ⟨fun _ => rfl, { same with keypad := congrArg (·.apply event) same.keypad }⟩
  case send event =>
    exact ⟨fun _ => rfl, { same with keypad := congrArg (·.send event) same.keypad }⟩
  case halt => exact ⟨fun _ => rfl, same.halt⟩
  case takeRedraw => exact ⟨fun polled => absurd rfl polled, { same with }⟩
  all_goals cases driver

/-- Machines that agree but for their dead state go through the same run alike: every action but a
poll of the redraw flag is answered alike, and they agree at the end. -/
theorem run_ignores_deadState (same : SameLive m n) {actions : List Action}
    (driven : ∀ a ∈ actions, a.isDriver) :
    (∀ k : Nat, actions[k]? ≠ some .takeRedraw → (n.play actions).1[k]? = (m.play actions).1[k]?) ∧
      SameLive (m.after actions) (n.after actions) := by
  induction actions generalizing m n with
  | nil => exact ⟨fun _ _ => rfl, same⟩
  | cons a rest ih =>
    obtain ⟨answer, kept⟩ := perform_sameLive same (driven a List.mem_cons_self)
    obtain ⟨answers, agree⟩ := ih kept fun b member => driven b (List.mem_cons_of_mem a member)
    refine ⟨fun k unpolled => ?_, agree⟩
    cases k with
    | zero => exact congrArg some (answer fun polled => unpolled (congrArg some polled))
    | succ k => exact answers k unpolled

/-- A machine before its first cycle whose dead state is not what a fresh machine has. -/
def littered : Machine :=
  { fresh ⟨Vector.replicate 8 0, 0⟩ with
    stack := { CallStack.empty with slots := Vector.replicate callLevels 0x0FFF }
    sound := ⟨9⟩
    opcode := 0xFFFF
    redraw := true }

/-- Two nested calls, the returns from them, a poll, and a return that faults. -/
def nestedCalls : List Action :=
  [.load .program [0x22, 0x04, 0x00, 0xEE, 0x22, 0x08, 0x00, 0xEE, 0x00, 0xEE],
    .cycle, .cycle, .cycle, .cycle, .takeRedraw, .cycle]

theorem run_ignores_deadState_nestedCalls :
    SameLive (fresh ⟨Vector.replicate 8 0, 0⟩) littered ∧ (∀ a ∈ nestedCalls, a.isDriver) ∧
      (littered.play nestedCalls).1[6]? = some (.fault .stackUnderflow) := by
  have same : SameLive (fresh ⟨Vector.replicate 8 0, 0⟩) littered :=
    ⟨rfl, rfl, rfl, rfl, ⟨rfl, fun k _ used => absurd used (Nat.not_lt_zero k)⟩, rfl, rfl, rfl, rfl,
      rfl⟩
  have driven : ∀ a ∈ nestedCalls, a.isDriver := by decide
  refine ⟨same, driven, ?_⟩
  rw [(run_ignores_deadState same driven).1 6 (by decide)]
  decide +kernel

end Machine

end Chip8

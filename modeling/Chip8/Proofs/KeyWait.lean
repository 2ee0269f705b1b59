import Chip8.Proofs.Faults
import Chip8.Proofs.Runs

/-!
# Waiting for a key

Fx0A with no line pressed undoes its own fetch, so the machine comes to the same word in the next
cycle. A wait is a run of cycles, with key events of any kind between them, in which no line is
pressed at the moment when a cycle has drained the queue. However long it is, it leaves the machine as
it was, except that the keypad has heard the events, the timers have run and the word is the one
fetched last (`Waited`, by induction on the run). The first cycle that finds lines pressed puts the
lowest of them into Vx and ends the wait (`keyWait_transparent`).
-/

namespace Chip8

/-- What can happen to a machine between the cycles of a wait. -/
def Action.isKeyEvent : Action → Bool
  | .apply _ | .send _ => true
  | _ => false

namespace Machine

variable {m after : Machine} {x : Register}

/-- The word Fx0A. -/
def waitWord (x : Register) : UInt16 := UInt16.ofNat (0xF00A + 0x100 * x)

theorem toNat_waitWord (x : Register) : (waitWord x).toNat = 0xF00A + 0x100 * x := by
  rw [waitWord, UInt16.toNat_ofNat']
  omega

/-! ## One cycle -/

theorem cycle_awaitKey (running : m.halted = false) (next : m.NextWord (0xF00A + 0x100 * x)) :
    m.cycle = (.ok (), ((m.fetched (waitWord x)).awaitKey x).tickTimers) := by
  obtain ⟨w, value, read, decoded⟩ := next.decodes (i := .awaitKey x) rfl
  obtain rfl : w = waitWord x := UInt16.toNat_inj.mp (value.trans (toNat_waitWord x).symm)
  refine (cycle_eq_ok_iff running).mpr ⟨_, _, read, ?_, rfl⟩
  rw [decoded]
  rfl

/-- The machine that a cycle of a wait leaves behind. -/
def afterWait (m : Machine) (x : Register) : Machine :=
  { m.drainKeys with opcode := waitWord x, delay := m.delay.tick, sound := m.sound.tick }

/-- A cycle that finds no line pressed steps back over the word that it has fetched. -/
theorem cycle_of_noKey (running : m.halted = false) (next : m.NextWord (0xF00A + 0x100 * x))
    (quiet : true ∉ m.drainKeys.keypad.lines) :
    m.cycle = (.ok (), m.afterWait x) := by
  have none : (m.fetched (waitWord x)).keypad.firstPressed = none :=
    Keypad.firstPressed_eq_none_iff.mpr quiet
  rw [cycle_awaitKey running next, awaitKey, none]
  simp [fetched, stepBack, tickTimers, drainKeys, afterWait]

/-- The machine that a cycle leaves behind which takes this key. -/
def afterKey (m : Machine) (x : Register) (key : Fin keyCount) : Machine :=
  { m.drainKeys with
    registers := m.registers.set x (UInt8.ofNat key)
    pc := m.pc + 2
    opcode := waitWord x
    delay := m.delay.tick
    sound := m.sound.tick }

/-- A cycle that finds lines pressed takes the lowest one, and leaves it pressed. -/
theorem cycle_of_key {key : Fin keyCount} (running : m.halted = false)
    (next : m.NextWord (0xF00A + 0x100 * x))
    (found : m.drainKeys.keypad.firstPressed = some key) :
    m.cycle = (.ok (), m.afterKey x key) := by
  have first : (m.fetched (waitWord x)).keypad.firstPressed = some key := found
  rw [cycle_awaitKey running next, awaitKey, first]
  rfl

/-! ## The wait -/

/-- What becomes of a machine that waits for so many cycles, all but its keypad. -/
structure Waited (m : Machine) (x : Register) (cycles : Nat) (after : Machine) : Prop where
  pc : after.pc = m.pc
  opcode : after.opcode = if cycles = 0 then m.opcode else waitWord x
  delay : after.delay.count.toNat = m.delay.count.toNat - cycles
  sound : after.sound.count.toNat = m.sound.count.toNat - cycles
  registers : after.registers = m.registers
  memory : after.memory = m.memory
  index : after.index = m.index
  stack : after.stack = m.stack
  screen : after.screen = m.screen
  redraw : after.redraw = m.redraw
  generator : after.generator = m.generator
  halted : after.halted = m.halted

theorem Waited.refl (m : Machine) (x : Register) : Waited m x 0 m :=
  ⟨rfl, rfl, rfl, rfl, rfl, rfl, rfl, rfl, rfl, rfl, rfl, rfl⟩

theorem Waited.cons_cycle {cycles : Nat} (later : Waited (m.afterWait x) x cycles after) :
    Waited m x (cycles + 1) after where
  pc := later.pc
  opcode := by
    have kept : after.opcode = if cycles = 0 then waitWord x else waitWord x := later.opcode
    rw [kept, ite_self, if_neg (Nat.succ_ne_zero cycles)]
  delay := by
    have ticked : after.delay.count.toNat = m.delay.tick.count.toNat - cycles := later.delay
    rw [ticked, Timer.toNat_count_tick]
    omega
  sound := by
    have ticked : after.sound.count.toNat = m.sound.tick.count.toNat - cycles := later.sound
    rw [ticked, Timer.toNat_count_tick]
    omega
  registers := later.registers
  memory := later.memory
  index := later.index
  stack := later.stack
  screen := later.screen
  redraw := later.redraw
  generator := later.generator
  halted := later.halted

theorem perform_of_isKeyEvent {a : Action} (hears : a.isKeyEvent) :
    ∃ keypad, (m.perform a).2 = { m with keypad } := by
  cases a
  case apply event => exact ⟨m.keypad.apply event, rfl⟩
  case send event => exact ⟨m.keypad.send event, rfl⟩
  all_goals cases hears

theorem waited_after {actions : List Action} (running : m.halted = false)
    (next : m.NextWord (0xF00A + 0x100 * x))
    (heard : ∀ a ∈ actions, a = .cycle ∨ a.isKeyEvent)
    (quiet : ∀ s ∈ m.cycleStarts actions, true ∉ s.drainKeys.keypad.lines) :
    (∀ s ∈ m.cycleStarts actions, s.cycle.1 = .ok ()) ∧
      Waited m x (m.cycleStarts actions).length (m.after actions) := by
  -- memory and program counter stay, so that every cycle of the run meets the same word
  induction actions generalizing m with
  | nil => exact ⟨List.forall_mem_nil _, Waited.refl m x⟩
  | cons a rest ih =>
    obtain ⟨here, others⟩ := List.forall_mem_cons.mp heard
    by_cases cycles : a = .cycle
    · subst cycles
      rw [cycleStarts_cycle, List.forall_mem_cons] at quiet
      have first := cycle_of_noKey running next quiet.1
      rw [first] at quiet
      obtain ⟨succeed, later⟩ := ih (m := m.afterWait x) running next others quiet.2
      rw [cycleStarts_cycle, List.forall_mem_cons, after_cons, perform_cycle, first]
      exact ⟨⟨rfl, succeed⟩, later.cons_cycle⟩
    · obtain ⟨keypad, effect⟩ := perform_of_isKeyEvent (m := m) (here.resolve_left cycles)
      rw [cycleStarts_of_ne cycles, effect] at quiet ⊢
      rw [after_cons, effect]
      obtain ⟨succeed, later⟩ := ih (m := { m with keypad }) running next others quiet
      exact ⟨succeed, { later with }⟩

/-- A running machine whose next word is Fx0A goes through any run of cycles and key events, in which
each cycle finds no line pressed when it has drained the queue, without a fault, and is then where it
was, only that its timers have run for as many cycles. If the next cycle finds lines pressed, it
succeeds as well: it gives Vx the number of the lowest one, goes on behind the word and does no more
than fetch, drain and let the timers run. -/
theorem keyWait_transparent {actions : List Action} (running : m.halted = false)
    (next : m.NextWord (0xF00A + 0x100 * x))
    (heard : ∀ a ∈ actions, a = .cycle ∨ a.isKeyEvent)
    (quiet : ∀ s ∈ m.cycleStarts actions, true ∉ s.drainKeys.keypad.lines) :
    (∀ s ∈ m.cycleStarts actions, s.cycle.1 = .ok ()) ∧
      Waited m x (m.cycleStarts actions).length (m.after actions) ∧
      (true ∈ (m.after actions).drainKeys.keypad.lines → ∃ key : Fin keyCount,
        (m.after actions).drainKeys.keypad.lines.get key = true ∧
        (∀ lower : Fin keyCount, lower < key →
          (m.after actions).drainKeys.keypad.lines.get lower = false) ∧
        (m.after actions).cycle = (.ok (), (m.after actions).afterKey x key) ∧
        ((m.after actions).afterKey x key).pc.toNat = m.pc.toNat + 2) := by
  obtain ⟨succeed, waited⟩ := waited_after running next heard quiet
  refine ⟨succeed, waited, fun pressed => ?_⟩
  have here : (m.after actions).NextWord (0xF00A + 0x100 * x) := by
    rw [NextWord, waited.memory, waited.pc]
    exact next
  cases found : (m.after actions).drainKeys.keypad.firstPressed with
  | none => exact absurd pressed (Keypad.firstPressed_eq_none_iff.mp found)
  | some key =>
    obtain ⟨held, lowest⟩ := Keypad.firstPressed_eq_some_iff.mp found
    have inside : m.pc.toNat + 1 < 4096 := next.1
    have behind : ((m.after actions).afterKey x key).pc = m.advance.pc :=
      congrArg (· + 2) waited.pc
    refine ⟨key, held, lowest, cycle_of_key (waited.halted.trans running) here found, ?_⟩
    rw [behind]
    exact toNat_pc_advance (by omega)

/-- About to wait for a key in V5, while the delay timer runs. -/
def beforeKey : Machine :=
  { fresh ⟨Vector.replicate 8 0, 0⟩ with
    memory := Memory.blank.write 0x200 [0xF5, 0x0A]
    delay := ⟨10⟩ }

/-- Two cycles of waiting, with a press before the second one that is taken back in time, and then
two presses. -/
def keyTaps : List Action :=
  [.cycle, .send (.pressed 3), .send (.released 3), .cycle, .send (.pressed 0xE),
    .apply (.pressed 9)]

theorem nextWord_beforeKey : beforeKey.NextWord (0xF00A + 0x100 * (5 : Register)) :=
  ⟨by decide, by decide +kernel⟩

theorem keyWait_transparent_keyTaps :
    (∀ s ∈ beforeKey.cycleStarts keyTaps, true ∉ s.drainKeys.keypad.lines) ∧
      Waited beforeKey 5 2 (beforeKey.after keyTaps) ∧
      (beforeKey.after keyTaps).cycle = (.ok (), (beforeKey.after keyTaps).afterKey 5 9) := by
  have quiet : ∀ s ∈ beforeKey.cycleStarts keyTaps, true ∉ s.drainKeys.keypad.lines := by
    decide +kernel
  have pressed : true ∈ (beforeKey.after keyTaps).drainKeys.keypad.lines := by decide +kernel
  have first : (beforeKey.after keyTaps).drainKeys.keypad.firstPressed = some 9 := by
    decide +kernel
  obtain ⟨_, waited, taken⟩ := keyWait_transparent rfl nextWord_beforeKey (by decide) quiet
  obtain ⟨key, held, lowest, success, _⟩ := taken pressed
  obtain rfl : key = 9 :=
    Option.some.inj ((Keypad.firstPressed_eq_some_iff.mpr ⟨held, lowest⟩).symm.trans first)
  exact ⟨quiet, waited, success⟩

end Machine

end Chip8

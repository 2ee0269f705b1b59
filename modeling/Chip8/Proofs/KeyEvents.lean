import Chip8.Proofs.Effects
import Chip8.Proofs.Runs

/-!
# Key events over runs

What was sent to a machine is what its cycles have taken from the queue, followed by what still
waits there, in the order of sending (`sent_after`). A running machine takes the whole queue before
it fetches, so that a line ends up as the last event for it says, and it makes no difference whether
events came through the queue or were applied at once, nor in which order neighbouring events of
different lines came (`KeepsOrder`).
-/

namespace Chip8

namespace KeyEvent

/-- What events make of a line: the last event for it decides, and without one it stays. -/
def lastFor (key : Nat) (old : Bool) (events : List KeyEvent) : Bool :=
  ((events.filter (·.key.toNat = key)).getLast?.map isPress).getD old

/-- Two queues that differ in the order of two neighbouring events, which are for different
lines. -/
inductive Exchanged : List KeyEvent → List KeyEvent → Prop
  | intro (before : List KeyEvent) {e f : KeyEvent} (after : List KeyEvent)
      (different : e.key ≠ f.key) :
      Exchanged (before ++ e :: f :: after) (before ++ f :: e :: after)

theorem lastFor_cons (key : Nat) (old : Bool) (e : KeyEvent) (rest : List KeyEvent) :
    lastFor key old (e :: rest) =
      lastFor key (if e.key.toNat = key then e.isPress else old) rest := by
  simp only [lastFor, List.filter_cons]
  by_cases own : e.key.toNat = key
  · simp only [own, decide_true, if_true, List.getLast?_cons, Option.map_some, Option.getD_some]
    cases (rest.filter (·.key.toNat = key)).getLast? <;> rfl
  · simp only [own, decide_false, Bool.false_eq_true, if_false]

theorem Exchanged.concat {queue queue' : List KeyEvent} (exchanged : Exchanged queue queue')
    (e : KeyEvent) : Exchanged (queue ++ [e]) (queue' ++ [e]) := by
  obtain ⟨before, after, different⟩ := exchanged
  simp only [List.append_assoc, List.cons_append]
  exact .intro before (after ++ [e]) different

end KeyEvent

namespace Keypad

open KeyEvent

variable {k last : Keypad} {e f : KeyEvent}

theorem lines_foldl_lastFor (events : List KeyEvent) (k : Keypad) (key : Nat)
    (inside : key < keyCount) :
    (events.foldl apply k).lines[key] = lastFor key k.lines[key] events := by
  induction events generalizing k with
  | nil => rfl
  | cons e rest ih =>
    rw [List.foldl_cons, ih, lastFor_cons]
    exact congrArg (lastFor key · rest) (getElem_lines_apply k e key inside)

theorem apply_of_outside (outside : keyCount ≤ e.key.toNat) : k.apply e = k := by
  rw [apply, Vector.setIfInBounds_eq_of_size_le outside]

theorem apply_comm (different : e.key ≠ f.key) :
    (k.apply e).apply f = (k.apply f).apply e := by
  have lines : ((k.apply e).apply f).lines = ((k.apply f).apply e).lines := by
    ext i hi
    simp only [getElem_lines_apply]
    by_cases first : e.key.toNat = i
    · have second : f.key.toNat ≠ i := fun same =>
        different (UInt8.toNat_inj.mp (first.trans same.symm))
      rw [if_neg second, if_pos first, if_pos first]
    · rw [if_neg first, if_neg first]
  exact congrArg (Keypad.mk · k.pending) lines

/-- Receiving takes the oldest event from the queue and applies it, until the queue is empty. -/
inductive Receives : Keypad → List KeyEvent → Keypad → Prop
  | stop {k : Keypad} (empty : k.pending = []) : Receives k [] k
  | next {k last : Keypad} {e : KeyEvent} {rest events : List KeyEvent}
      (oldest : k.pending = e :: rest)
      (later : Receives ({ k with pending := rest }.apply e) events last) :
      Receives k (e :: events) last

theorem drain_of_empty (empty : k.pending = []) : k.drain = k := by
  rw [drain, empty]
  exact congrArg (Keypad.mk k.lines) empty.symm

theorem drain_of_cons {rest : List KeyEvent} (oldest : k.pending = e :: rest) :
    k.drain = ({ k with pending := rest }.apply e).drain := by
  rw [drain, oldest]
  rfl

/-- Draining is receiving, and it receives the whole queue. -/
theorem receives_iff {events : List KeyEvent} :
    Receives k events last ↔ events = k.pending ∧ last = k.drain := by
  constructor
  · intro received
    induction received with
    | stop empty => exact ⟨empty.symm, (drain_of_empty empty).symm⟩
    | next oldest later ih =>
      obtain ⟨rfl, rfl⟩ := ih
      exact ⟨oldest.symm, (drain_of_cons oldest).symm⟩
  · rintro ⟨rfl, rfl⟩
    generalize queued : k.pending = events
    induction events generalizing k with
    | nil =>
      rw [drain_of_empty queued]
      exact .stop queued
    | cons e rest ih =>
      rw [drain_of_cons queued]
      exact .next queued (ih rfl)

theorem drain_exchanged {queue : List KeyEvent} (exchanged : Exchanged k.pending queue) :
    { k with pending := queue }.drain = k.drain := by
  simp only [drain]
  generalize k.pending = pending at exchanged
  obtain ⟨before, after, different⟩ := exchanged
  simp only [List.foldl_append, List.foldl_cons, apply_comm different]

end Keypad

/-- The event that an action sends. -/
def Action.sent? : Action → Option KeyEvent
  | .send event => some event
  | _ => none

/-- The events that a run sends. -/
def sentBy (actions : List Action) : List KeyEvent := actions.filterMap Action.sent?

namespace Machine

open KeyEvent

variable {m n : Machine}

/-! ## The queue -/

/-- The events that an action takes from the queue: as many of the oldest as the queue is shorter
afterwards. -/
def taken (m : Machine) (a : Action) : List KeyEvent :=
  m.keypad.pending.take (m.keypad.pending.length - (m.perform a).2.keypad.pending.length)

/-- The events that a run takes from the queue. -/
def takenBy (m : Machine) : List Action → List KeyEvent
  | [] => []
  | a :: actions => m.taken a ++ (m.perform a).2.takenBy actions

/-- A cycle of a running machine leaves no event in the queue. -/
theorem pending_cycle (running : m.halted = false) : m.cycle.2.keypad.pending = [] := by
  rcases result : m.cycle with ⟨f | ⟨⟩, after⟩
  · rcases (cycle_eq_error_iff running).mp result with ⟨_, rfl⟩ | ⟨w, _, _, rfl⟩
    · exact m.keypad.pending_drain
    · exact m.keypad.pending_drain
  · obtain ⟨w, executed, _, success, rfl⟩ := (cycle_eq_ok_iff running).mp result
    exact (effect_of_execute success).keypad.pending.trans m.keypad.pending_drain

theorem taken_cycle (running : m.halted = false) : m.taken .cycle = m.keypad.pending := by
  rw [taken, perform_cycle, pending_cycle running]
  exact List.take_length

theorem taken_of_kept {a : Action}
    (kept : (m.perform a).2.keypad.pending = m.keypad.pending) : m.taken a = [] := by
  rw [taken, kept, Nat.sub_self, List.take_zero]

theorem taken_cycle_of_halted (stopped : m.halted = true) : m.taken .cycle = [] := by
  apply taken_of_kept
  rw [perform_cycle, cycle_of_halted stopped]

/-- No action of a driver but a cycle takes events from the queue. -/
theorem sent_perform {a : Action} (driver : a.isDriver) :
    m.keypad.pending ++ a.sent?.toList = m.taken a ++ (m.perform a).2.keypad.pending := by
  cases a
  case cycle =>
    cases running : m.halted with
    | true =>
      rw [taken_cycle_of_halted running, perform_cycle, cycle_of_halted running]
      exact List.append_nil _
    | false =>
      rw [taken_cycle running, perform_cycle, pending_cycle running]
      rfl
  case load kind image =>
    have kept : (m.perform (.load kind image)).2.keypad.pending = m.keypad.pending := by
      obtain ⟨memory, effect⟩ := m.perform_load kind image
      rw [effect]
    rw [taken_of_kept kept, kept]
    exact List.append_nil _
  case send event =>
    have longer : m.keypad.pending.length - (m.keypad.send event).pending.length = 0 := by
      simp [Keypad.send]
    simp only [taken, perform, longer]
    rfl
  case apply | halt | takeRedraw =>
    rw [taken_of_kept rfl]
    exact List.append_nil _
  all_goals cases driver

theorem sent_after {actions : List Action} (driven : ∀ a ∈ actions, a.isDriver) :
    m.keypad.pending ++ sentBy actions =
      m.takenBy actions ++ (m.after actions).keypad.pending := by
  -- what the first action takes was in the queue before anything that comes later
  induction actions generalizing m with
  | nil => exact List.append_nil _
  | cons a rest ih =>
    have first := sent_perform (m := m) (driven a List.mem_cons_self)
    have later := ih (m := (m.perform a).2) fun b member => driven b (List.mem_cons_of_mem a member)
    have split : sentBy (a :: rest) = a.sent?.toList ++ sentBy rest := by
      simp only [sentBy, List.filterMap_cons]
      cases a.sent? <;> rfl
    rw [split, ← List.append_assoc, first, List.append_assoc, later, takenBy, List.append_assoc]
    rfl

/-! ## The drain -/

/-- A running machine drains its queue before it does anything else. -/
theorem cycle_drainKeys (running : m.halted = false) : m.cycle = m.drainKeys.cycle := by
  have drained : m.drainKeys.drainKeys = m.drainKeys :=
    congrArg (fun keypad => { m with keypad }) (Keypad.drain_of_empty m.keypad.pending_drain)
  have runs : m.drainKeys.halted = false := running
  simp only [cycle, running, runs, drained, Bool.false_eq_true, if_false]

theorem cycle_eq_of_drainKeys (running : m.halted = false) (running' : n.halted = false)
    (same : n.drainKeys = m.drainKeys) : n.cycle = m.cycle := by
  rw [cycle_drainKeys running, cycle_drainKeys running', same]

theorem after_sends (events : List KeyEvent) (m : Machine) :
    m.after (events.map .send) =
      { m with keypad := { m.keypad with pending := m.keypad.pending ++ events } } := by
  induction events generalizing m with
  | nil => simp
  | cons e rest ih =>
    rw [List.map_cons, after_cons, ih]
    simp [perform, Keypad.send]

theorem after_applies (events : List KeyEvent) (m : Machine) :
    m.after (events.map .apply) = { m with keypad := events.foldl Keypad.apply m.keypad } := by
  induction events generalizing m with
  | nil => rfl
  | cons e rest ih =>
    rw [List.map_cons, after_cons, ih]
    rfl

theorem cycle_after_sends (running : m.halted = false) (empty : m.keypad.pending = [])
    (events : List KeyEvent) :
    (m.after (events.map .send)).cycle = (m.after (events.map .apply)).cycle := by
  have queued : ({ m.keypad with pending := m.keypad.pending ++ events } : Keypad).drain =
      events.foldl Keypad.apply m.keypad := by
    simp only [Keypad.drain, empty, List.nil_append]
    rw [← empty]
  have applied : (events.foldl Keypad.apply m.keypad).drain = events.foldl Keypad.apply m.keypad :=
    Keypad.drain_of_empty (by rw [Keypad.pending_foldl_apply, empty])
  rw [after_sends, after_applies]
  refine cycle_eq_of_drainKeys ?_ ?_ ?_
  · exact running
  · exact running
  · simp only [drainKeys, queued, applied]

/-! ## Exchanging events -/

/-- Two machines that differ in the order of two neighbouring events in the queue, which are for
different lines. -/
def Exchanged (m n : Machine) : Prop :=
  ∃ queue, KeyEvent.Exchanged m.keypad.pending queue ∧
    n = { m with keypad := { m.keypad with pending := queue } }

theorem cycle_exchanged (exchanged : Exchanged m n) (running : m.halted = false) :
    n.cycle = m.cycle := by
  obtain ⟨queue, swapped, rfl⟩ := exchanged
  refine cycle_eq_of_drainKeys running ?_ ?_
  · exact running
  · simp only [drainKeys, Keypad.drain_exchanged swapped]

theorem perform_exchanged (exchanged : Exchanged m n) {a : Action} (driver : a.isDriver) :
    (n.perform a).1 = (m.perform a).1 ∧
      ((n.perform a).2 = (m.perform a).2 ∨ Exchanged (m.perform a).2 (n.perform a).2) := by
  cases a
  case cycle =>
    cases running : m.halted with
    | true =>
      have stopped : n.halted = true := by
        obtain ⟨_, _, rfl⟩ := exchanged
        exact running
      simp only [perform, cycle_of_halted running, cycle_of_halted stopped]
      exact ⟨rfl, .inr exchanged⟩
    | false =>
      have alike : n.perform .cycle = m.perform .cycle := by
        simp only [perform, cycle_exchanged exchanged running]
      exact ⟨congrArg Prod.fst alike, .inl (congrArg Prod.snd alike)⟩
  all_goals obtain ⟨queue, swapped, rfl⟩ := exchanged
  case load kind image =>
    simp only [perform, load]
    cases m.memory.load kind image with
    | error refused => exact ⟨rfl, .inr ⟨queue, swapped, rfl⟩⟩
    | ok memory => exact ⟨rfl, .inr ⟨queue, swapped, rfl⟩⟩
  case send event => exact ⟨rfl, .inr ⟨queue ++ [event], swapped.concat event, rfl⟩⟩
  case apply | halt | takeRedraw => exact ⟨rfl, .inr ⟨queue, swapped, rfl⟩⟩
  all_goals cases driver

/-- Machines whose queues differ by an exchange go through the same run alike, and they are the same
machine from the first cycle on that drains the queue. -/
theorem run_exchanged (exchanged : Exchanged m n) {actions : List Action}
    (driven : ∀ a ∈ actions, a.isDriver) :
    (n.play actions).1 = (m.play actions).1 ∧
      (n.after actions = m.after actions ∨ Exchanged (m.after actions) (n.after actions)) := by
  induction actions generalizing m n with
  | nil => exact ⟨rfl, .inr exchanged⟩
  | cons a rest ih =>
    -- either this action has drained both queues, or they still differ by the exchange
    obtain ⟨reply, same | still⟩ := perform_exchanged exchanged (driven a List.mem_cons_self)
    · have equal : n.perform a = m.perform a := Prod.ext reply same
      refine ⟨?_, .inl ?_⟩
      · simp only [play, equal]
      · rw [after_cons, after_cons, equal]
    · obtain ⟨replies, alike⟩ := ih still fun b member => driven b (List.mem_cons_of_mem a member)
      refine ⟨?_, alike⟩
      simp only [play, reply, replies]

/-! ## Every point of a run -/

/-- What is promised of the key events that wait when a machine has got this far. -/
structure KeepsOrder (m : Machine) : Prop where
  /-- A running machine takes the whole queue, and goes on like one to whose lines the events came
  before. -/
  drains : m.halted = false → m.cycle = m.drainKeys.cycle ∧ m.taken .cycle = m.keypad.pending ∧
    m.cycle.2.keypad.pending = []
  stopped : m.halted = true → m.cycle = (.error .halted, m) ∧ m.taken .cycle = []
  /-- The events are taken one by one, none is passed over, and each is applied. -/
  received : ∀ events last, m.keypad.Receives events last ↔
    events = m.keypad.pending ∧ last = m.drainKeys.keypad
  lines : ∀ (key : Nat) (inside : key < keyCount),
    m.drainKeys.keypad.lines[key] = lastFor key m.keypad.lines[key] m.keypad.pending
  outside : ∀ e : KeyEvent, keyCount ≤ e.key.toNat → m.keypad.apply e = m.keypad
  /-- Through the queue or at once, events come to the same. -/
  atOnce : m.halted = false → m.keypad.pending = [] → ∀ events : List KeyEvent,
    (m.after (events.map .send)).cycle = (m.after (events.map .apply)).cycle
  exchanged : ∀ n, Exchanged m n → (m.halted = false → n.cycle = m.cycle) ∧
    ∀ later : List Action, (∀ a ∈ later, a.isDriver) →
      (n.play later).1 = (m.play later).1 ∧
        (n.after later = m.after later ∨ Exchanged (m.after later) (n.after later))

theorem keepsOrder (m : Machine) : KeepsOrder m where
  drains running := ⟨cycle_drainKeys running, taken_cycle running, pending_cycle running⟩
  stopped stopped := ⟨cycle_of_halted stopped, taken_cycle_of_halted stopped⟩
  received _ _ := Keypad.receives_iff
  lines := Keypad.lines_foldl_lastFor m.keypad.pending { m.keypad with pending := [] }
  outside _ := Keypad.apply_of_outside
  atOnce := cycle_after_sends
  exchanged _ exchanged := ⟨cycle_exchanged exchanged, fun _ => run_exchanged exchanged⟩

/-- In every run of a driver's actions on a fresh machine, what was sent is what cycles have taken,
followed by what is still in the queue; what one of several senders has sent is a part of that, in
its own order; and the events that wait are dealt with as `KeepsOrder` says. -/
theorem keyEvents_in_order (g : Generator) {actions : List Action}
    (driven : ∀ a ∈ actions, a.isDriver) :
    sentBy actions =
        (fresh g).takenBy actions ++ ((fresh g).after actions).keypad.pending ∧
      (∀ own : List Action, own.Sublist actions → (sentBy own).Sublist
        ((fresh g).takenBy actions ++ ((fresh g).after actions).keypad.pending)) ∧
      KeepsOrder ((fresh g).after actions) := by
  have sent : sentBy actions =
      (fresh g).takenBy actions ++ ((fresh g).after actions).keypad.pending :=
    sent_after (m := fresh g) driven
  refine ⟨sent, fun own part => ?_, keepsOrder _⟩
  rw [← sent]
  exact part.filterMap Action.sent?

/-- Presses and releases, queued and at once, one of a line that does not exist, and more of them
when the machine has stopped. -/
def keyTraffic : List Action :=
  [.send (.pressed 3), .apply (.pressed 5), .send (.pressed 0x20), .send (.released 3), .cycle,
    .halt, .send (.pressed 1), .cycle]

theorem keyEvents_in_order_keyTraffic :
    (∀ a ∈ keyTraffic, a.isDriver) ∧
      (fresh ⟨Vector.replicate 8 0, 0⟩).takenBy keyTraffic ++ [.pressed 1] =
        [.pressed 3, .pressed 0x20, .released 3, .pressed 1] ∧
      KeepsOrder ((fresh ⟨Vector.replicate 8 0, 0⟩).after keyTraffic) := by
  have driven : ∀ a ∈ keyTraffic, a.isDriver := by decide
  obtain ⟨sent, _, kept⟩ := keyEvents_in_order ⟨Vector.replicate 8 0, 0⟩ driven
  have pending : ((fresh ⟨Vector.replicate 8 0, 0⟩).after keyTraffic).keypad.pending =
      [.pressed 1] := by decide +kernel
  rw [pending] at sent
  exact ⟨driven, sent.symm, kept⟩

end Machine

end Chip8

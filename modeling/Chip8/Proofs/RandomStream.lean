import Chip8.Proofs.Frame
import Chip8.Proofs.Runs

/-!
# The random stream

A machine takes the words of its generator's stream one by one: the `j`-th Cxkk of a run, counting
from zero, gets the `j`-th word, whatever the mask is, and nothing else takes one. For a single action
this is an equation on the generator (`generator_perform`). Over a run the generator is the one of the
start, as many words further as there were Cxkk (`generator_after`), and so what a Cxkk draws depends
on the seed and on how many came before it, and on nothing else that the program does
(`random_stream`).
-/

namespace Chip8.Machine

open Word Instruction

variable {m after : Machine}

/-- Whether the next cycle succeeds and executes Cxkk. -/
def drawsRandom (m : Machine) : Bool :=
  match m.cycle.1, m.memory.word m.pc.toNat with
  | .ok (), .ok w => (family w).val = 0xC
  | _, _ => false

/-- The machines that the successful Cxkk of a run begin with, in order. -/
def drawStarts (m : Machine) (actions : List Action) : List Machine :=
  (m.cycleStarts actions).filter drawsRandom

/-- The next word is Cxkk, and the cycle that executes it succeeds and gives Vx what the mask leaves of
the byte. -/
def TakesByte (m : Machine) (byte : UInt8) : Prop :=
  ∃ (x : Register) (kk : UInt8), m.NextWord (0xC000 + 0x100 * x + kk.toNat) ∧
    m.cycle.1 = .ok () ∧ m.cycle.2.registers.get x = byte &&& kk

/-! ## One action -/

theorem drawsRandom_of_error {f : Fault} (faulted : m.cycle = (.error f, after)) :
    m.drawsRandom = false := by
  simp only [drawsRandom, faulted]

theorem drawsRandom_of_ok {w : UInt16} (success : m.cycle = (.ok (), after))
    (read : m.memory.word m.pc.toNat = .ok w) :
    m.drawsRandom = decide ((family w).val = 0xC) := by
  simp only [drawsRandom, success, read]

theorem generator_cycle (m : Machine) :
    m.cycle.2.generator = if m.drawsRandom then m.generator.draw.2 else m.generator := by
  rcases result : m.cycle with ⟨f | _, after⟩
  · obtain ⟨_, _, _, rfl⟩ := frame_of_cycle_error result
    rw [drawsRandom_of_error result]
    rfl
  · obtain ⟨w, read, _⟩ := moves_of_cycle_ok result
    rw [drawsRandom_of_ok result read]
    simp only [decide_eq_true_eq]
    exact (frame_of_word result read).generator

/-- A driver's actions take a word from the stream only by a cycle that executes Cxkk, and then one. -/
theorem generator_perform {a : Action} (driver : a.isDriver) :
    (m.perform a).2.generator =
      if a = .cycle ∧ m.drawsRandom then m.generator.draw.2 else m.generator := by
  by_cases cycles : a = .cycle
  · simp only [cycles, perform_cycle, generator_cycle, true_and]
  · obtain ⟨memory, keypad, halted, redraw, effect⟩ := perform_of_isDriver driver cycles
    rw [effect, if_neg fun both => cycles both.1]

/-- A Cxkk gets the next byte of the stream. -/
theorem takesByte_of_drawsRandom (draws : m.drawsRandom) : m.TakesByte m.generator.draw.1 := by
  rcases result : m.cycle with ⟨f | ⟨⟩, after⟩
  · rw [drawsRandom_of_error result] at draws
    cases draws
  · obtain ⟨w, executed, read, success, rfl⟩ :=
      (cycle_eq_ok_iff (running_of_cycle_ok result)).mp result
    rw [drawsRandom_of_ok result read, decide_eq_true_eq] at draws
    have decoded : decode w = .random (x w) (kk w) := decode_eq_random_iff.mpr ⟨draws, rfl, rfl⟩
    have spelled : w.toNat = 0xC000 + 0x100 * x w + (kk w).toNat :=
      (decode_eq_iff (by simp) w).mp decoded
    refine ⟨x w, kk w, ?_, congrArg Prod.fst result, ?_⟩
    · rw [← spelled]
      exact Memory.word_eq_ok_iff.mp read
    · rw [decoded] at success
      cases success
      rw [result]
      exact Registers.get_set_self _ _ _

/-! ## Whole runs -/

@[simp] theorem drawStarts_nil (m : Machine) : m.drawStarts [] = [] := rfl

theorem drawStarts_cons {a : Action} (actions : List Action) :
    m.drawStarts (a :: actions) =
      (if a = .cycle ∧ m.drawsRandom then [m] else []) ++ (m.perform a).2.drawStarts actions := by
  rw [drawStarts, cycleStarts, List.filter_append]
  by_cases cycles : a = .cycle
  · cases draws : m.drawsRandom <;> simp [cycles, draws, drawStarts]
  · simp [cycles, drawStarts]

/-- The generator is as many words further as the run has executed Cxkk. -/
theorem generator_after {actions : List Action} (driven : ∀ a ∈ actions, a.isDriver) :
    (m.after actions).generator =
      { m.generator with drawn := m.generator.drawn + (m.drawStarts actions).length } := by
  induction actions generalizing m with
  | nil => rfl
  | cons a rest ih =>
    obtain ⟨driver, others⟩ := List.forall_mem_cons.mp driven
    rw [after_cons, ih others, generator_perform driver, drawStarts_cons, List.length_append]
    split
    · simp [Generator.draw, Nat.add_assoc]
    · simp

/-- The `j`-th Cxkk of a run finds the generator `j` words further than the run did. -/
theorem generator_of_drawStarts {actions : List Action} (driven : ∀ a ∈ actions, a.isDriver) {j : Nat}
    {s : Machine} (jth : (m.drawStarts actions)[j]? = some s) :
    s.drawsRandom ∧ s.generator = { m.generator with drawn := m.generator.drawn + j } := by
  induction actions generalizing m j with
  | nil => cases jth
  | cons a rest ih =>
    obtain ⟨driver, others⟩ := List.forall_mem_cons.mp driven
    have first := generator_perform (m := m) driver
    rw [drawStarts_cons] at jth
    by_cases draws : a = .cycle ∧ m.drawsRandom
    · rw [if_pos draws] at jth first
      cases j with
      | zero =>
        cases jth
        exact ⟨draws.2, rfl⟩
      | succ j =>
        obtain ⟨drawn, place⟩ := ih others jth
        refine ⟨drawn, ?_⟩
        rw [place, first]
        simp [Generator.draw, Nat.add_assoc, Nat.add_comm 1]
    · rw [if_neg draws] at jth first
      obtain ⟨drawn, place⟩ := ih others jth
      exact ⟨drawn, by rw [place, first]⟩

theorem takesByte_of_drawStarts {seed : UInt64} {actions : List Action}
    (driven : ∀ a ∈ actions, a.isDriver) {j : Nat} {s : Machine}
    (jth : ((withSeed seed).drawStarts actions)[j]? = some s) :
    s.TakesByte (Generator.output (Generator.ofSeed seed).key j).toUInt8 := by
  obtain ⟨draws, place⟩ := generator_of_drawStarts driven jth
  have taken := takesByte_of_drawsRandom draws
  rw [place] at taken
  simpa [Generator.draw, withSeed, fresh, Generator.ofSeed] using taken

/-- In every run of a driver's actions on a machine with a seed: the `j`-th Cxkk gets the low byte of
the `j`-th word of the seed's stream, masked; the generator has gone on by as many words as there were
Cxkk, and the next action takes one more only if it is a cycle that executes Cxkk. So in any other run
with the same seed the `j`-th Cxkk gets the same byte before its mask, that of the `j`-th word. -/
theorem random_stream (seed : UInt64) {actions : List Action} (driven : ∀ a ∈ actions, a.isDriver) :
    (∀ (j : Nat) (s : Machine), ((withSeed seed).drawStarts actions)[j]? = some s →
      s.TakesByte (Generator.output (Generator.ofSeed seed).key j).toUInt8) ∧
    ((withSeed seed).after actions).generator =
      { Generator.ofSeed seed with drawn := ((withSeed seed).drawStarts actions).length } ∧
    (∀ a : Action, a.isDriver → (((withSeed seed).after actions).perform a).2.generator =
      if a = .cycle ∧ ((withSeed seed).after actions).drawsRandom then
        ((withSeed seed).after actions).generator.draw.2
      else ((withSeed seed).after actions).generator) ∧
    ∀ others : List Action, (∀ a ∈ others, a.isDriver) → ∀ (j : Nat) (s t : Machine),
      ((withSeed seed).drawStarts actions)[j]? = some s →
      ((withSeed seed).drawStarts others)[j]? = some t →
      s.TakesByte (Generator.output (Generator.ofSeed seed).key j).toUInt8 ∧
        t.TakesByte (Generator.output (Generator.ofSeed seed).key j).toUInt8 := by
  refine ⟨fun j s jth => takesByte_of_drawStarts driven jth, ?_, fun a driver =>
    generator_perform driver, fun others driven' j s t jth jth' => ?_⟩
  · rw [generator_after driven]
    simp [withSeed, fresh, Generator.ofSeed]
  · exact ⟨takesByte_of_drawStarts driven jth, takesByte_of_drawStarts driven' jth'⟩

/-- Two draws with something else between them, the second of them whole. -/
def drawsApart : List Action :=
  [.load .program [0xC1, 0x0F, 0x62, 0x05, 0xC3, 0xFF], .cycle, .send (.pressed 4), .cycle, .cycle]

/-- Two draws in a row after something else, the first of them masked away, the second in part. -/
def drawsTogether : List Action :=
  [.load .program [0x00, 0xE0, 0xC4, 0x00, 0xC5, 0x3C], .cycle, .cycle, .cycle]

/-- Word 1 ends in the byte 0xE9. The one run gives it to V3 as it is, the other gives V5 what 0x3C
leaves of it. -/
theorem random_stream_drawsApart_drawsTogether :
    (∀ a ∈ drawsApart, a.isDriver) ∧ (∀ a ∈ drawsTogether, a.isDriver) ∧
      (∃ s t, ((withSeed 7).drawStarts drawsApart)[1]? = some s ∧
        ((withSeed 7).drawStarts drawsTogether)[1]? = some t ∧ s.TakesByte 0xE9 ∧
          t.TakesByte 0xE9) ∧
      ((withSeed 7).after drawsApart).registers.get 3 = 0xE9 ∧
      ((withSeed 7).after drawsTogether).registers.get 5 = 0x28 := by
  have driven : ∀ a ∈ drawsApart, a.isDriver := by decide
  have driven' : ∀ a ∈ drawsTogether, a.isDriver := by decide
  have byte : (Generator.output (Generator.ofSeed 7).key 1).toUInt8 = 0xE9 := by decide +kernel
  obtain ⟨two, two', given⟩ : 1 < ((withSeed 7).drawStarts drawsApart).length ∧
      1 < ((withSeed 7).drawStarts drawsTogether).length ∧
      ((withSeed 7).after drawsApart).registers.get 3 = 0xE9 ∧
      ((withSeed 7).after drawsTogether).registers.get 5 = 0x28 := by decide +kernel
  have second := List.getElem?_eq_getElem two
  have second' := List.getElem?_eq_getElem two'
  obtain ⟨taken, taken'⟩ := (random_stream 7 driven).2.2.2 _ driven' 1 _ _ second second'
  rw [byte] at taken taken'
  exact ⟨driven, driven', ⟨_, _, second, second', taken, taken'⟩, given⟩

end Chip8.Machine

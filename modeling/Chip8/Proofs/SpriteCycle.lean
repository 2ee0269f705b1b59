import Chip8.Proofs.Bounds
import Chip8.Proofs.Faults
import Chip8.Proofs.Operations
import Chip8.Proofs.PaintOrder

/-!
# Cycles that draw

A cycle that fetches Dxyn paints the n bytes at the index on the screen, at the place that Vx and Vy
name before the cycle, and then tells in VF whether a lit pixel has gone dark (`drawn_cycle`). A sprite
of at most fifteen rows hits no pixel twice, so this is the same as a collision while painting. A second
such cycle paints the same sprite at the same place, unless the flag has moved it, and so takes the
first one back (`drawnBack_cycle`). A sprite that memory does not hold is not drawn at all; all of this
is `draw_cycle`.
-/

namespace Chip8

/-- Some pixel that is lit on the first screen is dark on the second. -/
def Screen.LosesLight (s t : Screen) : Prop :=
  ∃ p, s.light p = 1 ∧ t.light p = 0

instance (s t : Screen) : Decidable (s.LosesLight t) :=
  inferInstanceAs (Decidable (∃ p, s.light p = 1 ∧ t.light p = 0))

namespace Machine

variable {m after : Machine} {x y : Register} {n : Fin 16}

/-- The word Dxyn. -/
def drawWord (x y : Register) (n : Fin 16) : Nat := 0xD000 + 0x100 * x + 0x10 * y + n

/-- The bytes of memory from the index on, `n` of them where there are as many. -/
def spriteAt (m : Machine) (n : Nat) : List UInt8 :=
  (m.memory.bytes.toList.drop m.index.toNat).take n

/-- The screen with these bytes painted at the place that Vx and Vy name, and whether a pixel is
switched off meanwhile. -/
def painted (m : Machine) (x y : Register) (n : Fin 16) : Screen × Bool :=
  m.screen.paint (m.registers.get x) (m.registers.get y) (m.spriteAt n)

/-- A sprite has at most fifteen rows, so it hits no pixel twice. -/
theorem painted_snd_iff (m : Machine) (x y : Register) (n : Fin 16) :
    (m.painted x y n).2 = true ↔ m.screen.LosesLight (m.painted x y n).1 := by
  have rows : (m.spriteAt n).length ≤ n := List.length_take_le _ _
  have short : (m.spriteAt n).length ≤ screenHeight :=
    Nat.le_trans rows (Nat.le_trans (Nat.le_of_lt n.isLt) (by decide))
  exact Screen.collided_paint_of_short short _ _ _

/-! ## One cycle -/

/-- What a cycle that draws the sprite makes of a machine. -/
structure Drawn (m after : Machine) (x y : Register) (n : Fin 16) : Prop where
  screen : after.screen = (m.painted x y n).1
  flag : after.registers.get .flag = if m.screen.LosesLight after.screen then 1 else 0
  redraw : after.redraw = true
  memory : after.memory = m.memory
  index : after.index = m.index
  registers : ∀ k, k ≠ .flag → after.registers.get k = m.registers.get k

theorem drawSprite_of_fits (fits : m.index.toNat + n ≤ memorySize) :
    m.drawSprite x y n = done { m.setFlag (m.painted x y n).2 with
      screen := (m.painted x y n).1, redraw := true } := by
  rw [drawSprite, m.memory.block_of_fits fits]
  rfl

theorem drawn_cycle (running : m.halted = false) (next : m.NextWord (drawWord x y n))
    (fits : m.index.toNat + n ≤ memorySize) : m.cycle.1 = .ok () ∧ Drawn m m.cycle.2 x y n := by
  obtain ⟨w, _, read, decoded⟩ := next.decodes (i := .draw x y n) rfl
  have executed : (m.fetched w).execute (.decode w) = (m.fetched w).drawSprite x y n := by
    rw [decoded, execute]
  rw [drawSprite_of_fits (m := m.fetched w) fits, done] at executed
  rw [(cycle_eq_ok_iff running).mpr ⟨w, _, read, executed, rfl⟩]
  refine ⟨rfl, rfl, ?_, rfl, rfl, rfl, fun k other => Registers.get_set_of_ne _ _ (Ne.symm other)⟩
  refine (Registers.get_set_self _ _ _).trans ?_
  exact if_congr (painted_snd_iff m x y n) rfl rfl

/-- A sprite that memory does not hold leaves everything that drawing changes alone. -/
theorem kept_of_cut (running : m.halted = false) (next : m.NextWord (drawWord x y n))
    (cut : memorySize < m.index.toNat + n) :
    m.cycle.1 = .error (Memory.blockFault m.index.toNat) ∧ m.cycle.2.screen = m.screen ∧
      m.cycle.2.registers = m.registers ∧ m.cycle.2.redraw = m.redraw := by
  have faulted := (cycle_fst_eq_error_iff_refuses (i := .draw x y n) running next rfl).mpr ⟨cut, rfl⟩
  obtain ⟨_, _, _, effect⟩ := frame_of_cycle_error (cycle_eq_of_fst faulted)
  rw [effect]
  exact ⟨faulted, rfl, rfl, rfl⟩

/-! ## The same sprite again -/

theorem Drawn.flag_eq_one_iff (drawn : Drawn m after x y n) :
    after.registers.get .flag = 1 ↔ (m.painted x y n).2 = true := by
  rw [drawn.flag, drawn.screen, painted_snd_iff]
  split <;> simp [*]

/-- Two cycles that draw the same sprite at the same place. -/
structure DrawnBack (m first second : Machine) (n : Fin 16) : Prop where
  pixels : second.screen.pixels = m.screen.pixels
  /-- The bytes are the old ones too if they were zeros and ones, as they are on every screen that
  actions lead to. -/
  screen : m.screen.Binary → second.screen = m.screen
  flag : (first.registers.get .flag = 1 ∨ second.registers.get .flag = 1) ↔
    ∃ byte ∈ m.spriteAt n, byte ≠ 0

theorem Drawn.drawnBack {first second : Machine} (once : Drawn m first x y n)
    (twice : Drawn first second x y n) (notX : x ≠ .flag) (notY : y ≠ .flag) :
    DrawnBack m first second n := by
  -- the second cycle paints what the first has painted
  have sprite : first.spriteAt n = m.spriteAt n := by
    rw [spriteAt, once.memory, once.index, spriteAt]
  have repeated : first.painted x y n =
      (m.painted x y n).1.paint (m.registers.get x) (m.registers.get y) (m.spriteAt n) := by
    rw [painted, once.screen, once.registers x notX, once.registers y notY, sprite]
  let call : PaintCall := ⟨m.registers.get x, m.registers.get y, m.spriteAt n⟩
  have passes : m.screen.paintAll ([call] ++ [call]) =
      (second.screen, [(m.painted x y n).2, (first.painted x y n).2]) := by
    rw [twice.screen, repeated]
    rfl
  have same := Screen.light_paintAll_twice (List.Perm.refl [call]) m.screen
  have collides := Screen.true_mem_paintAll_twice (List.Perm.refl [call]) m.screen
  rw [passes] at same collides
  refine ⟨Screen.pixels_eq_of_light same, fun binary => ?_, ?_⟩
  · have kept := Screen.paintAll_binary binary ([call] ++ [call])
    rw [passes] at kept
    exact kept.eq_of_light binary same
  · rw [once.flag_eq_one_iff, twice.flag_eq_one_iff]
    simp only [List.mem_cons, List.not_mem_nil, or_false, exists_eq_left, PaintCall.marked_iff]
      at collides
    exact (or_congr eq_comm eq_comm).trans collides

theorem drawnBack_cycle (running : m.halted = false) (next : m.NextWord (drawWord x y n))
    (fits : m.index.toNat + n ≤ memorySize) (again : m.cycle.2.NextWord (drawWord x y n))
    (notX : x ≠ .flag) (notY : y ≠ .flag) :
    m.cycle.2.cycle.1 = .ok () ∧ DrawnBack m m.cycle.2 m.cycle.2.cycle.2 n := by
  obtain ⟨success, once⟩ := drawn_cycle running next fits
  have runs := halted_of_cycle_ok (cycle_eq_of_fst success)
  rw [← once.index] at fits
  obtain ⟨success', twice⟩ := drawn_cycle runs again fits
  exact ⟨success', once.drawnBack twice notX notY⟩

/-! ## Screens that actions lead to -/

theorem binary_nextWord (binary : m.screen.Binary) : m.nextWord.2.screen.Binary :=
  attempt_induction (P := fun later => later.screen.Binary) binary fun _ => binary

theorem binary_fetch (binary : m.screen.Binary) : m.fetch.2.screen.Binary := by
  have moved := binary_nextWord binary
  unfold fetch
  generalize m.nextWord = outcome at moved ⊢
  rcases outcome with ⟨_ | _, after⟩
  · exact moved
  · exact moved

/-- No action stores a byte but zero and one on the screen, those that reach into a machine's parts
included. -/
theorem binary_perform (binary : m.screen.Binary) (a : Action) : (m.perform a).2.screen.Binary := by
  cases a
  case cycle =>
    rw [perform_cycle]
    exact binary_cycle binary
  case execute word =>
    rw [perform, report_snd]
    exact binary_execute binary _
  case operate op =>
    exact perform_operate_induction (P := fun later => later.screen.Binary) (binary_execute binary)
      (fun _ _ _ _ _ => binary) fun _ x y sprite => Screen.paint_binary binary x y sprite
  case fetch =>
    rw [perform, report_snd]
    exact binary_fetch binary
  case nextWord =>
    rw [perform, report_snd]
    exact binary_nextWord binary
  case load kind image =>
    obtain ⟨memory, effect⟩ := m.perform_load kind image
    rw [effect]
    exact binary
  case push | pop | setByte | fill =>
    exact settle_induction (P := fun later => later.screen.Binary) binary fun _ => binary
  all_goals exact binary

theorem binary_after (binary : m.screen.Binary) (actions : List Action) :
    (m.after actions).screen.Binary := by
  induction actions generalizing m with
  | nil => exact binary
  | cons a rest ih => exact ih (binary_perform binary a)

/-- A running machine comes to Dxyn, for any x, y and n. If memory holds the n bytes at the index, the
cycle draws them; and if the next word is the same and neither x nor y is F, the next cycle takes the
sprite off the screen again, and one of the two has set VF to 1 exactly if some byte of the sprite is
not zero. If memory does not hold them, the cycle changes no pixel, no register and not the redraw
flag. Whatever actions have led to the machine, its screen stores zeros and ones. -/
theorem draw_cycle {m : Machine} (running : m.halted = false) {x y : Register} {n : Fin 16}
    (next : m.NextWord (drawWord x y n)) :
    (m.index.toNat + n ≤ memorySize →
      m.cycle.1 = .ok () ∧ Drawn m m.cycle.2 x y n ∧
        (x ≠ .flag → y ≠ .flag → m.cycle.2.NextWord (drawWord x y n) →
          m.cycle.2.cycle.1 = .ok () ∧ DrawnBack m m.cycle.2 m.cycle.2.cycle.2 n)) ∧
    (memorySize < m.index.toNat + n →
      m.cycle.1 = .error (Memory.blockFault m.index.toNat) ∧ m.cycle.2.screen = m.screen ∧
        m.cycle.2.registers = m.registers ∧ m.cycle.2.redraw = m.redraw) ∧
    ∀ g actions, m = (fresh g).after actions → m.screen.Binary := by
  refine ⟨fun fits => ?_, kept_of_cut running next, ?_⟩
  · obtain ⟨success, drawn⟩ := drawn_cycle running next fits
    exact ⟨success, drawn, fun notX notY again => drawnBack_cycle running next fits again notX notY⟩
  · rintro g actions rfl
    exact binary_after Screen.binary_blank actions

/-- The same two rows twice in a row, on a screen with one lit pixel, which they hit. -/
def drawsTwice : Machine :=
  { fresh ⟨Vector.replicate 8 0, 0⟩ with
    memory := Memory.blank.write 0x200 [0xD0, 0x12, 0xD0, 0x12]
    index := 0x200
    screen := (Screen.blank.paint 0 0 [0x80]).1 }

theorem draw_cycle_drawsTwice :
    drawsTwice.halted = false ∧ drawsTwice.NextWord (drawWord 0 1 2) ∧
      drawsTwice.cycle.2.NextWord (drawWord 0 1 2) ∧
      drawsTwice.cycle.2.registers.get .flag = 1 ∧
      drawsTwice.cycle.2.cycle.2.screen = drawsTwice.screen := by
  have next : drawsTwice.NextWord (drawWord 0 1 2) := ⟨by decide, by decide +kernel⟩
  have again : drawsTwice.cycle.2.NextWord (drawWord 0 1 2) :=
    ⟨by decide +kernel, by decide +kernel⟩
  have binary : drawsTwice.screen.Binary := Screen.paint_binary Screen.binary_blank 0 0 [0x80]
  obtain ⟨_, drawn, twice⟩ := (draw_cycle rfl next).1 (by decide)
  obtain ⟨_, back⟩ := twice (by decide) (by decide) again
  exact ⟨rfl, next, again, drawn.flag_eq_one_iff.mpr (by decide +kernel), back.screen binary⟩

end Machine

end Chip8

import Chip8.Proofs.Frame
import Chip8.Proofs.ImageLoads
import Chip8.Proofs.SpriteCycle

/-!
# Drawing the glyphs of the font

A font that fills its region stays there: loading a program does not reach it, and of the instructions
only Fx33 and Fx55 write to memory, at the index (`getElem_cycle`). So unless one of these writes into
the region, the font is still there after any run (`holdsFont_after`). Fx29 points the index at the
glyph of a digit, all five rows of which lie in the region (`cycle_pointGlyph`), and Dxy5 paints what
is there. `glyph_shown` puts the three together.
-/

namespace Chip8

/-- The rows of a digit's glyph: five bytes of the font. -/
def Font.glyph (font : List UInt8) (digit : Nat) : List UInt8 :=
  (font.drop (5 * digit)).take 5

/-- The driver loads no other font. -/
def Action.keepsFont : Action → Bool
  | .load .font _ => false
  | a => a.isDriver

namespace Machine

open Word Instruction

variable {m : Machine} {font : List UInt8} {actions : List Action}

/-- The next cycle succeeds, executing Fx33 or Fx55, and writes the byte at this address. -/
def StoresAt (m : Machine) (a : Nat) : Prop :=
  m.cycle.1 = .ok () ∧ ∃ w, m.memory.word m.pc.toNat = .ok w ∧ m.index.toNat ≤ a ∧
    (Fits w 0xF 0x33 ∧ a < m.index.toNat + 3 ∨ Fits w 0xF 0x55 ∧ a ≤ m.index.toNat + x w)

/-- The next cycle writes into the region of fonts. -/
def StoresIntoFont (m : Machine) : Prop := ∃ a, 0x050 ≤ a ∧ a < 0x0A0 ∧ m.StoresAt a

/-- The region of fonts holds these bytes. -/
def HoldsFont (m : Machine) (font : List UInt8) : Prop :=
  ∀ k < 80, m.memory.bytes[0x050 + k]? = font[k]?

/-! ## The font stays -/

theorem getElem_cycle {a : Nat} (inside : a < memorySize) (kept : ¬ m.StoresAt a) :
    m.cycle.2.memory.bytes[a] = m.memory.bytes[a] := by
  rcases result : m.cycle with ⟨f | ⟨⟩, after⟩
  · obtain ⟨_, _, _, rfl⟩ := frame_of_cycle_error result
    rfl
  · obtain ⟨w, read, _⟩ := moves_of_cycle_ok result
    refine Decidable.byContradiction fun changed => kept ?_
    obtain ⟨above, written⟩ := (frame_of_word result read).memory a inside changed
    exact ⟨congrArg Prod.fst result, w, read, above, written⟩

/-- A program lies elsewhere. -/
theorem getElem_loadProgram (program : List UInt8) {a : Nat} (inside : a < memorySize)
    (region : a < 0x0A0) :
    (m.perform (.load .program program)).2.memory.bytes[a] = m.memory.bytes[a] := by
  have loaded := m.perform_imageLoad ⟨.program, program⟩
  simp only [Image.load] at loaded
  have elsewhere : (⟨.program, program⟩ : Image).given a = none := by
    refine Option.eq_none_iff_forall_ne_some.mpr fun v gives => ?_
    have above := (Image.region_of_given gives).1
    simp only [ImageKind.start] at above
    omega
  simp only [loaded, Memory.getElem_put _ _ inside, elsewhere, Option.getD_none]

theorem getElem_perform {action : Action} (keeps : action.keepsFont) {a : Nat}
    (inside : a < memorySize) (region : a < 0x0A0) (kept : action = .cycle → ¬ m.StoresAt a) :
    (m.perform action).2.memory.bytes[a] = m.memory.bytes[a] := by
  cases action
  case cycle =>
    simp only [perform_cycle]
    exact getElem_cycle inside (kept rfl)
  case load kind image =>
    cases kind with
    | font => cases keeps
    | program => exact getElem_loadProgram image inside region
  case apply | send | halt | takeRedraw => rfl
  all_goals cases keeps

theorem HoldsFont.perform {action : Action} (held : m.HoldsFont font) (keeps : action.keepsFont)
    (untouched : action = .cycle → ¬ m.StoresIntoFont) : (m.perform action).2.HoldsFont font := by
  intro k small
  have inside : 0x050 + k < memorySize := by
    simp only [memorySize]
    omega
  have same := getElem_perform (m := m) keeps inside (by omega) fun cycles stores =>
    untouched cycles ⟨0x050 + k, by omega, by omega, stores⟩
  rw [← held k small, Vector.getElem?_eq_getElem inside, Vector.getElem?_eq_getElem inside, same]

theorem holdsFont_after (held : m.HoldsFont font) (keeps : ∀ a ∈ actions, a.keepsFont)
    (untouched : ∀ s ∈ m.cycleStarts actions, ¬ s.StoresIntoFont) :
    (m.after actions).HoldsFont font := by
  induction actions generalizing m with
  | nil => exact held
  | cons action rest ih =>
    obtain ⟨first, later⟩ := List.forall_mem_cons.mp keeps
    by_cases cycles : action = .cycle
    · subst cycles
      rw [cycleStarts_cycle, List.forall_mem_cons] at untouched
      have still := held.perform first fun _ => untouched.1
      rw [perform_cycle] at still
      rw [after_cons, perform_cycle]
      exact ih still later untouched.2
    · rw [cycleStarts_of_ne cycles] at untouched
      have still := held.perform first fun same => absurd same cycles
      exact ih still later untouched

/-- A font that fills its region is there once it has been loaded, before or after a program. -/
theorem holdsFont_after_loads (m : Machine) (full : font.length = 80) {program : List UInt8}
    {images : List Image} (order : images = [⟨.font, font⟩, ⟨.program, program⟩] ∨
      images = [⟨.program, program⟩, ⟨.font, font⟩]) :
    (m.after (images.map Image.load)).HoldsFont font := by
  intro k small
  have inside : 0x050 + k < memorySize := by
    simp only [memorySize]
    omega
  have present : k < font.length := by omega
  have fits : (⟨.font, font⟩ : Image).Fits := Nat.le_of_eq full
  have gives : (⟨.font, font⟩ : Image).given (0x050 + k) = some font[k] := by
    have byte := Image.given_start_add fits k
    rwa [List.getElem?_eq_getElem present] at byte
  have elsewhere : (⟨.program, program⟩ : Image).given (0x050 + k) = none :=
    Image.given_eq_none_of_given (by simp) gives
  have last : Image.lastGiven images (0x050 + k) = some font[k] := by
    rcases order with rfl | rfl <;> simp [Image.lastGiven, gives, elsewhere]
  rw [Vector.getElem?_eq_getElem inside, getElem_after_loads, last, List.getElem?_eq_getElem present]
  rfl

/-! ## Pointing and drawing -/

theorem cycle_pointGlyph {x : Register} (running : m.halted = false)
    (next : m.NextWord (0xF029 + 0x100 * x)) (digit : (m.registers.get x).toNat ≤ 15) :
    m.cycle.1 = .ok () ∧ m.cycle.2.index.toNat = 0x050 + 5 * (m.registers.get x).toNat := by
  obtain ⟨w, _, read, decoded⟩ := next.decodes (i := .pointGlyph x) rfl
  have small : ((m.fetched w).registers.get x).toNat ≤ 0xF := digit
  have executed : (m.fetched w).execute (decode w) = (m.fetched w).pointGlyph x := by
    rw [decoded, execute]
  simp only [pointGlyph, if_pos small] at executed
  rw [(cycle_eq_ok_iff running).mpr ⟨w, _, read, executed, rfl⟩]
  refine ⟨rfl, ?_⟩
  simp only [tickTimers, UInt16.toNat_ofNat', ImageKind.start, Font.glyphSize]
  change (0x050 + (m.registers.get x).toNat * 5) % _ = _
  omega

/-- What lies at a glyph's address is the glyph. -/
theorem HoldsFont.spriteAt (held : m.HoldsFont font) {digit : Nat} (small : digit ≤ 15)
    (index : m.index.toNat = 0x050 + 5 * digit) : m.spriteAt 5 = Font.glyph font digit := by
  refine List.ext_getElem? fun k => ?_
  rw [Machine.spriteAt, Font.glyph, index, List.getElem?_take, List.getElem?_take]
  split
  · rename_i row
    have byte := held (5 * digit + k) (by omega)
    rw [List.getElem?_drop, List.getElem?_drop, Vector.getElem?_toList, ← byte, Nat.add_assoc]
  · rfl

/-- A cycle of Dab5 that paints these rows. -/
structure Paints (m : Machine) (a b : Register) (rows : List UInt8) : Prop where
  success : m.cycle.1 = .ok ()
  screen : m.cycle.2.screen =
    (m.screen.paint (m.registers.get a) (m.registers.get b) rows).1
  flag : m.cycle.2.registers.get .flag =
    if (m.screen.paint (m.registers.get a) (m.registers.get b) rows).2 then 1 else 0
  redraw : m.cycle.2.redraw = true

theorem paints_of_spriteAt {a b : Register} {rows : List UInt8} (running : m.halted = false)
    (next : m.NextWord (0xD005 + 0x100 * a + 0x10 * b)) (fits : m.index.toNat + 5 ≤ memorySize)
    (sprite : m.spriteAt 5 = rows) : m.Paints a b rows := by
  have word : drawWord a b ⟨5, by decide⟩ = 0xD005 + 0x100 * a + 0x10 * b := by
    simp only [drawWord]
    omega
  obtain ⟨success, drawn⟩ := drawn_cycle running (word ▸ next) fits
  have painted : m.painted a b ⟨5, by decide⟩ =
      m.screen.paint (m.registers.get a) (m.registers.get b) rows := by
    rw [Machine.painted, sprite]
  exact {
    success := success
    screen := painted ▸ drawn.screen
    flag := by
      rw [drawn.flag, drawn.screen, ← painted]
      exact if_congr (painted_snd_iff m a b _).symm rfl rfl
    redraw := drawn.redraw }

/-- On any machine, with a font that fills its region and any program, loaded in either order, and
then a run of cycles, key events and whatever else a driver does but load another font, in which no
cycle writes into the region. If the run comes to Fx29 with a digit in Vx, that cycle succeeds and
points the index at five bytes of the region. If it comes to Dab5 later, while the index has this
value, that cycle succeeds and paints the digit's glyph, as it is in the font, at Va and Vb. -/
theorem glyph_shown (m : Machine) {program : List UInt8} (full : font.length = 80)
    {images : List Image} (order : images = [⟨.font, font⟩, ⟨.program, program⟩] ∨
      images = [⟨.program, program⟩, ⟨.font, font⟩])
    {before between : List Action} (keeps : ∀ a ∈ before ++ .cycle :: between, a.keepsFont)
    (untouched : ∀ s ∈ (m.after (images.map Image.load)).cycleStarts (before ++ .cycle :: between),
      ¬ s.StoresIntoFont)
    {pointing drawing : Machine}
    (pointing_eq : pointing = (m.after (images.map Image.load)).after before)
    (drawing_eq : drawing = pointing.cycle.2.after between) {x : Register}
    (runs : pointing.halted = false) (points : pointing.NextWord (0xF029 + 0x100 * x))
    (digit : (pointing.registers.get x).toNat ≤ 15) :
    (pointing.cycle.1 = .ok () ∧
      pointing.cycle.2.index.toNat = 0x050 + 5 * (pointing.registers.get x).toNat ∧
      pointing.cycle.2.index.toNat + 5 ≤ 0x0A0) ∧
    ∀ a b : Register, drawing.halted = false →
      drawing.NextWord (0xD005 + 0x100 * a + 0x10 * b) →
      drawing.index = pointing.cycle.2.index →
      drawing.Paints a b (Font.glyph font (pointing.registers.get x).toNat) := by
  obtain ⟨success, index⟩ := cycle_pointGlyph runs points digit
  refine ⟨⟨success, index, by omega⟩, fun a b draws next same => ?_⟩
  have whole : drawing =
      (m.after (images.map Image.load)).after (before ++ .cycle :: between) := by
    rw [after_append, after_cons, perform_cycle, ← pointing_eq, drawing_eq]
  have held : drawing.HoldsFont font := by
    rw [whole]
    exact holdsFont_after (holdsFont_after_loads m full order) keeps untouched
  rw [← same] at index
  have inside : drawing.index.toNat + 5 ≤ memorySize := by
    simp only [memorySize]
    omega
  exact paints_of_spriteAt draws next inside (held.spriteAt digit index)

/-- With a program that points the index at the glyph of A, which it puts into V0, and draws it at
V0 and V1; the built-in font was loaded after it. -/
def drawsLetter : Machine :=
  (fresh ⟨Vector.replicate 8 0, 0⟩).after ([
    ⟨.program, [0x60, 0x0A, 0xF0, 0x29, 0x61, 0x07, 0xD0, 0x15]⟩,
    ⟨.font, Font.builtIn⟩].map Image.load)

/-- Next comes the cycle that points the index at the glyph. -/
def pointsAtLetter : Machine := drawsLetter.after [.cycle]

/-- A press has come in, V1 is 7, and the glyph is drawn next. -/
def showsLetter : Machine := pointsAtLetter.cycle.2.after [.send (.pressed 3), .cycle]

theorem not_storesIntoFont_of_word
    (other : (m.memory.word m.pc.toNat).toOption.any fun w => kk w ≠ 0x33 ∧ kk w ≠ 0x55) :
    ¬ m.StoresIntoFont := by
  rintro ⟨a, _, _, _, w, read, _, ⟨⟨_, last⟩, _⟩ | ⟨⟨_, last⟩, _⟩⟩ <;>
    simp [read, Except.toOption, ← UInt8.toNat_inj, last] at other

theorem glyph_shown_letter :
    pointsAtLetter.halted = false ∧ pointsAtLetter.NextWord 0xF029 ∧
      showsLetter.NextWord 0xD015 ∧ showsLetter.index = pointsAtLetter.cycle.2.index ∧
      showsLetter.cycle.2.screen =
        (showsLetter.screen.paint 10 7 [0xF0, 0x90, 0xF0, 0x90, 0x90]).1 := by
  have untouched : ∀ s ∈ drawsLetter.cycleStarts ([.cycle] ++ .cycle :: [.send (.pressed 3), .cycle]),
      ¬ s.StoresIntoFont := by
    have words : ∀ s ∈ drawsLetter.cycleStarts
        ([.cycle] ++ .cycle :: [.send (.pressed 3), .cycle]),
        (s.memory.word s.pc.toNat).toOption.any fun w => kk w ≠ 0x33 ∧ kk w ≠ 0x55 := by
      decide +kernel
    exact fun s member => not_storesIntoFont_of_word (words s member)
  have pointing_eq : pointsAtLetter = drawsLetter.after [.cycle] := by rw [pointsAtLetter]
  have drawing_eq : showsLetter = pointsAtLetter.cycle.2.after [.send (.pressed 3), .cycle] := by
    rw [showsLetter]
  obtain ⟨runs, points, ten⟩ : pointsAtLetter.halted = false ∧ pointsAtLetter.NextWord 0xF029 ∧
      pointsAtLetter.registers.get .first = 10 := by
    unfold NextWord Memory.HoldsWord
    decide +kernel
  obtain ⟨draws, next, same, column, row⟩ : showsLetter.halted = false ∧
      showsLetter.NextWord 0xD015 ∧ showsLetter.index = pointsAtLetter.cycle.2.index ∧
      showsLetter.registers.get .first = 10 ∧ showsLetter.registers.get ⟨1, by decide⟩ = 7 := by
    unfold NextWord Memory.HoldsWord
    decide +kernel
  have digit : (pointsAtLetter.registers.get .first).toNat ≤ 15 := by
    rw [ten]
    decide
  obtain ⟨_, shown⟩ := glyph_shown (fresh ⟨Vector.replicate 8 0, 0⟩) Font.length_builtIn (.inr rfl)
    (by decide) untouched pointing_eq drawing_eq (x := .first) runs points digit
  have painted := (shown .first ⟨1, by decide⟩ draws next same).screen
  rw [column, row, ten] at painted
  exact ⟨runs, points, next, same, painted⟩

end Machine

end Chip8

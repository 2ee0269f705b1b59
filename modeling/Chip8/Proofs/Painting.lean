import Mathlib.Algebra.BigOperators.Fin
import Mathlib.Data.Nat.Count
import Chip8.Screen

/-!
# Painting a sprite

A sprite hits a pixel once for each of its set bits that comes to lie there (`hits`); more than once
only if it is taller than the screen. Painting switches pixels one after the other, each where the
ones before have left it, but what comes of it depends on the numbers of hits alone: every pixel is
lit or dark by the parity of its light and its hits, and a collision is reported if these two add up
to more than one somewhere (`paint_by_hits`).
-/

namespace Chip8

theorem Pixel.at_eq_at_iff {x y x' y' : Nat} :
    Pixel.at x y = Pixel.at x' y' ↔
      x % screenWidth = x' % screenWidth ∧ y % screenHeight = y' % screenHeight := by
  simp only [Pixel.at, Fin.mk.injEq, screenWidth, screenHeight]
  omega

/-- Every pixel has a column and a row. -/
theorem Pixel.exists_at (p : Pixel) :
    ∃ (c : Fin screenWidth) (r : Fin screenHeight), p = Pixel.at c r := by
  have bound : p.val < 64 * 32 := p.isLt
  refine ⟨⟨p.val % 64, Nat.mod_lt _ (by decide)⟩, ⟨p.val / 64, Nat.div_lt_of_lt_mul bound⟩, ?_⟩
  apply Fin.ext
  simp only [Pixel.at, screenWidth, screenHeight]
  omega

namespace Screen

variable {s t : Screen}

/-! ## Switching pixels -/

theorem pixels_eq_of_light (same : ∀ p, s.light p = t.light p) : s.pixels = t.pixels := by
  apply Vector.ext
  intro k inside
  have lit : s.pixels[k] = true ↔ t.pixels[k] = true := by
    have left := light_eq_one_iff (s := s) (p := ⟨k, inside⟩)
    rw [same] at left
    exact left.symm.trans light_eq_one_iff
  exact Bool.eq_iff_iff.mpr lit

theorem Binary.eq_of_light (binary : s.Binary) (binary' : t.Binary)
    (same : ∀ p, s.light p = t.light p) : s = t := by
  obtain ⟨cells⟩ := s
  obtain ⟨cells'⟩ := t
  refine congrArg Screen.mk (Vector.ext fun k inside => UInt8.toNat_inj.mp ?_)
  have left := binary.toNat_cells ⟨k, inside⟩
  have right := binary'.toNat_cells ⟨k, inside⟩
  exact left.trans ((same ⟨k, inside⟩).trans right.symm)

theorem light_switch (s : Screen) (collided : Bool) (p q : Pixel) :
    (switch (s, collided) p).1.light q = if p = q then 1 - s.light q else s.light q := by
  simp only [light_eq, getElem_switch]
  by_cases same : p = q
  · subst same
    simp only [if_true]
    split
    · rfl
    · rfl
  · simp only [if_neg same]

theorem collided_switch (s : Screen) (collided : Bool) (p : Pixel) :
    (switch (s, collided) p).2 = (collided || s.light p == 1) := by
  simp only [switch, light_eq]
  split
  · simp
  · simp

/-- A pixel that is switched an even number of times is what it was. -/
theorem light_foldl_switch (ps : List Pixel) (s : Screen) (collided : Bool) (q : Pixel) :
    (ps.foldl switch (s, collided)).1.light q = (s.light q + ps.count q) % 2 := by
  induction ps generalizing s collided with
  | nil =>
    have bound := s.light_le_one q
    simp only [List.foldl_nil, List.count_nil]
    omega
  | cons p rest ih =>
    have bound := s.light_le_one q
    have first := light_switch s collided p q
    rw [List.foldl_cons, ih, first, List.count_cons]
    by_cases same : p = q
    · rw [if_pos same, if_pos (beq_iff_eq.mpr same)]
      omega
    · rw [if_neg same, if_neg (by simpa using same)]
      rfl

/-- A pixel is switched off if it comes up while it is lit, which it is from the start or since it
came up before. Up to the first such time, light only adds up. -/
theorem collided_foldl_switch (ps : List Pixel) (s : Screen) (collided : Bool) :
    (ps.foldl switch (s, collided)).2 = true ↔
      collided = true ∨ ∃ q, 2 ≤ s.light q + ps.count q := by
  induction ps generalizing s collided with
  | nil =>
    have none : ¬ ∃ q, 2 ≤ s.light q + ([] : List Pixel).count q := by
      rintro ⟨q, double⟩
      have bound := s.light_le_one q
      rw [List.count_nil] at double
      omega
    rw [List.foldl_nil, or_iff_left none]
  | cons p rest ih =>
    rw [List.foldl_cons, ih, collided_switch]
    by_cases lit : s.light p = 1
    · have here : 2 ≤ s.light p + (p :: rest).count p := by
        rw [List.count_cons_self]
        omega
      simp only [lit, beq_self_eq_true, Bool.or_true, true_or, true_iff]
      exact .inr ⟨p, here⟩
    · have dark : s.light p = 0 := by
        have bound := s.light_le_one p
        omega
      have adds : ∀ q, (switch (s, collided) p).1.light q + rest.count q =
          s.light q + (p :: rest).count q := by
        intro q
        rw [light_switch, List.count_cons]
        by_cases same : p = q
        · rw [if_pos same, if_pos (beq_iff_eq.mpr same), ← same]
          omega
        · rw [if_neg same, if_neg (by simpa using same)]
          rfl
      simp only [adds, dark, Nat.zero_ne_one, beq_iff_eq, Bool.or_eq_true, or_false]

/-- What a sprite does to the light of a pixel. -/
theorem light_paint (s : Screen) (x y : UInt8) (sprite : List UInt8) (q : Pixel) :
    (s.paint x y sprite).1.light q =
      (s.light q + (spritePixels x.toNat y.toNat sprite).count q) % 2 :=
  light_foldl_switch _ s false q

theorem collided_paint (s : Screen) (x y : UInt8) (sprite : List UInt8) :
    (s.paint x y sprite).2 = true ↔
      ∃ q, 2 ≤ s.light q + (spritePixels x.toNat y.toNat sprite).count q := by
  rw [paint, collided_foldl_switch, or_iff_right Bool.false_ne_true]

/-! ## The hits of a sprite -/

variable (x y : Nat) (bits : UInt8) (sprite below : List UInt8) (c : Fin screenWidth)
  (r : Fin screenHeight)

/-- How many set bits of a sprite come to lie in column `c` and row `r` when its top left corner is
at `x` and `y`. -/
def hits : Nat :=
  (Finset.univ.filter fun bit : Fin sprite.length × Fin 8 =>
    sprite[bit.1].toNat.testBit (7 - bit.2) ∧
      (x + bit.2) % screenWidth = c ∧ (y + bit.1) % screenHeight = r).card

/-- The hits of one row. -/
def rowHits : Nat :=
  ∑ column : Fin 8, if bits.toNat.testBit (7 - column) ∧
    (x + column) % screenWidth = c ∧ y % screenHeight = r then 1 else 0

theorem hits_eq_sum :
    hits x y sprite c r = ∑ row : Fin sprite.length, rowHits x (y + row) sprite[row] c r := by
  rw [hits, Finset.card_filter, Fintype.sum_prod_type]
  rfl

theorem hits_cons :
    hits x y (bits :: below) c r = rowHits x y bits c r + hits x (y + 1) below c r := by
  rw [hits_eq_sum, hits_eq_sum]
  change ∑ row : Fin (below.length + 1), rowHits x (y + row) (bits :: below)[row] c r = _
  rw [Fin.sum_univ_succ]
  refine congrArg (rowHits x y bits c r + ·) (Finset.sum_congr rfl fun row _ => ?_)
  rw [Fin.val_succ, Nat.add_left_comm, Nat.add_comm row.val]
  rfl

theorem count_setColumns :
    ((setColumns bits).map fun column => Pixel.at (x + column) y).count (Pixel.at c r) =
      rowHits x y bits c r := by
  have column : c.val % screenWidth = c := Nat.mod_eq_of_lt c.isLt
  have row : r.val % screenHeight = r := Nat.mod_eq_of_lt r.isLt
  have counted := Nat.count_eq_card_filter_range (fun column => bits.toNat.testBit (7 - column) ∧
    (x + column) % screenWidth = c ∧ y % screenHeight = r) 8
  rw [Finset.card_filter, Finset.sum_range, Nat.count] at counted
  rw [rowHits, ← counted, List.count, List.countP_map, setColumns, List.countP_filter]
  apply List.countP_congr
  intro k _
  simp [Pixel.at_eq_at_iff, column, row, and_comm]

/-- A pixel comes up among the pixels of a sprite as often as the sprite hits it. -/
theorem count_spritePixels :
    (spritePixels x y sprite).count (Pixel.at c r) = hits x y sprite c r := by
  induction sprite generalizing y with
  | nil => rfl
  | cons bits below ih =>
    rw [spritePixels, List.count_append, count_setColumns, ih, hits_cons]

/-- Only a sprite that is taller than the screen hits a pixel twice. -/
theorem hits_le_one (short : sprite.length ≤ screenHeight) : hits x y sprite c r ≤ 1 := by
  refine Finset.card_le_one.mpr fun one first other second => ?_
  obtain ⟨_, column, row⟩ := (Finset.mem_filter.mp first).2
  obtain ⟨_, column', row'⟩ := (Finset.mem_filter.mp second).2
  simp only [screenWidth, screenHeight] at column column' row row' short
  apply Prod.ext
  · apply Fin.ext
    omega
  · apply Fin.ext
    omega

theorem count_spritePixels_le_one (short : sprite.length ≤ screenHeight) (p : Pixel) :
    (spritePixels x y sprite).count p ≤ 1 := by
  obtain ⟨c, r, rfl⟩ := p.exists_at
  rw [count_spritePixels]
  exact hits_le_one x y sprite c r short

/-- A sprite that is no taller than the screen collides exactly if it leaves some lit pixel dark. -/
theorem collided_paint_of_short {sprite : List UInt8} (short : sprite.length ≤ screenHeight)
    (s : Screen) (x y : UInt8) :
    (s.paint x y sprite).2 = true ↔
      ∃ p, s.light p = 1 ∧ (s.paint x y sprite).1.light p = 0 := by
  rw [collided_paint]
  refine exists_congr fun p => ?_
  have once := count_spritePixels_le_one x.toNat y.toNat sprite short p
  have before := s.light_le_one p
  rw [light_paint]
  omega

/-- Painting a sprite on a screen that stores zeros and ones: every pixel changes with the parity of
its hits, and a collision is reported exactly if some pixel is hit that was lit before, or is hit more
than once. -/
theorem paint_by_hits {s : Screen} (binary : s.Binary) (x y : UInt8) (sprite : List UInt8) :
    (∀ (c : Fin screenWidth) (r : Fin screenHeight),
      ((s.paint x y sprite).1.cells[Pixel.at c r]).toNat =
        ((s.cells[Pixel.at c r]).toNat + hits x.toNat y.toNat sprite c r) % 2) ∧
    ((s.paint x y sprite).2 = true ↔ ∃ (c : Fin screenWidth) (r : Fin screenHeight),
      1 ≤ hits x.toNat y.toNat sprite c r ∧ s.isLit c r = true ∨
        2 ≤ hits x.toNat y.toNat sprite c r) := by
  constructor
  · intro c r
    have painted := paint_binary binary x y sprite
    rw [painted.toNat_cells, binary.toNat_cells, light_paint, count_spritePixels]
  · rw [collided_paint]
    constructor
    · rintro ⟨p, double⟩
      obtain ⟨c, r, rfl⟩ := p.exists_at
      rw [count_spritePixels] at double
      have bound := s.light_le_one (Pixel.at c r)
      refine ⟨c, r, ?_⟩
      rw [isLit, ← light_eq_one_iff]
      omega
    · rintro ⟨c, r, hit⟩
      refine ⟨Pixel.at c r, ?_⟩
      rw [isLit, ← light_eq_one_iff] at hit
      rw [count_spritePixels]
      omega

/-- A column of pixels one row taller than the screen, so that its last bit comes to lie on its
first. -/
def tallColumn : List UInt8 := List.replicate (screenHeight + 1) 0x80

/-- Drawn on a blank screen, it collides with itself. -/
theorem paint_by_hits_tallColumn :
    blank.Binary ∧ (blank.paint 255 255 tallColumn).2 = true ∧
      ((blank.paint 255 255 tallColumn).1.cells[Pixel.at 63 31]).toNat = 0 ∧
      ((blank.paint 255 255 tallColumn).1.cells[Pixel.at 63 30]).toNat = 1 := by
  have dark : ∀ p : Pixel, (blank.cells[p]).toNat = 0 := by
    intro p
    simp [blank]
  have twice : hits (UInt8.toNat 255) (UInt8.toNat 255) tallColumn 63 31 = 2 := by decide +kernel
  have once : hits (UInt8.toNat 255) (UInt8.toNat 255) tallColumn 63 30 = 1 := by decide +kernel
  obtain ⟨cells, collided⟩ := paint_by_hits binary_blank 255 255 tallColumn
  generalize blank.paint 255 255 tallColumn = painted at cells collided ⊢
  have hitTwice := cells 63 31
  have hitOnce := cells 63 30
  simp only [dark, twice] at hitTwice
  simp only [dark, once] at hitOnce
  exact ⟨binary_blank, collided.mpr ⟨63, 31, .inr (Nat.le_of_eq twice.symm)⟩, hitTwice, hitOnce⟩

end Screen

end Chip8

/-!
# The screen

A torus of 64 by 32 pixels, each lit or dark, stored row by row with one byte a pixel. Sprites are
painted by exclusive or: a set bit switches its pixel, and switching a lit pixel off is a
collision. No byte but zero and one is ever stored (`paint_binary`).
-/

namespace Chip8

abbrev screenWidth : Nat := 64
abbrev screenHeight : Nat := 32

/-- A position in the row-by-row order of pixels. -/
abbrev Pixel := Fin (screenWidth * screenHeight)

/-- The pixel in column `x` and row `y`, both counted around the torus. -/
def Pixel.at (x y : Nat) : Pixel :=
  ⟨y % screenHeight * screenWidth + x % screenWidth, by
    have hx := Nat.mod_lt x (show 0 < screenWidth by decide)
    have hy := Nat.mod_lt y (show 0 < screenHeight by decide)
    simp only [screenWidth, screenHeight] at hx hy ⊢
    omega⟩

structure Screen where
  /-- One byte for each pixel, zero for a dark one. -/
  cells : Vector UInt8 (screenWidth * screenHeight)
  deriving DecidableEq, Repr

namespace Screen

def blank : Screen := ⟨Vector.replicate _ 0⟩

/-- Which pixels are lit, row by row. -/
def pixels (s : Screen) : Vector Bool (screenWidth * screenHeight) := s.cells.map (· != 0)

/-- Whether the pixel in column `x` and row `y` is lit, both counted around the torus. -/
def isLit (s : Screen) (x y : Nat) : Bool := s.pixels[Pixel.at x y]

/-- One for a lit pixel, zero for a dark one. -/
def light (s : Screen) (p : Pixel) : Nat := s.pixels[p].toNat

theorem light_eq (s : Screen) (p : Pixel) : s.light p = if s.cells[p] = 0 then 0 else 1 := by
  simp only [light, pixels, Fin.getElem_fin, Vector.getElem_map]
  split
  · rename_i dark
    simp [dark]
  · rename_i lit
    simp [lit]

theorem light_le_one (s : Screen) (p : Pixel) : s.light p ≤ 1 := Bool.toNat_le _

theorem light_eq_one_iff {s : Screen} {p : Pixel} : s.light p = 1 ↔ s.pixels[p] = true := by
  simp [light]

/-- The columns of the set bits of a sprite row, leftmost (most significant) first. -/
def setColumns (bits : UInt8) : List Nat :=
  (List.range 8).filter fun column => bits.toNat.testBit (7 - column)

/-- The pixels that a sprite switches when its top left corner is at column `x` and row `y`, row by
row from the top and left to right. A pixel can come up more than once when the sprite is taller
than the screen. -/
def spritePixels (x y : Nat) : List UInt8 → List Pixel
  | [] => []
  | bits :: below =>
    (setColumns bits).map (fun column => Pixel.at (x + column) y) ++ spritePixels x (y + 1) below

/-- Switches one pixel, remembering whether any pixel was switched off so far. -/
def switch : Screen × Bool → Pixel → Screen × Bool
  | (s, collided), p =>
    if s.cells[p] = 0 then (⟨s.cells.set p 1⟩, collided) else (⟨s.cells.set p 0⟩, true)

theorem getElem_switch (s : Screen) (collided : Bool) (p q : Pixel) :
    (switch (s, collided) p).1.cells[q] =
      if p = q then (if s.cells[p] = 0 then 1 else 0) else s.cells[q] := by
  simp only [switch]
  by_cases same : p = q
  · subst same
    split <;> simp
  · split <;> simp [Fin.val_ne_of_ne same]

/-- Switches the pixels of a sprite and says whether one of them was switched off. -/
def paint (s : Screen) (x y : UInt8) (sprite : List UInt8) : Screen × Bool :=
  (spritePixels x.toNat y.toNat sprite).foldl switch (s, false)

/-- Every stored byte is zero or one. -/
def Binary (s : Screen) : Prop := ∀ p : Pixel, s.cells[p] = 0 ∨ s.cells[p] = 1

theorem binary_blank : Binary blank := by
  intro p
  left
  simp [blank]

/-- Where no byte but zero and one is stored, the bytes are the light. -/
theorem Binary.toNat_cells {s : Screen} (binary : s.Binary) (p : Pixel) :
    (s.cells[p]).toNat = s.light p := by
  rw [light_eq]
  rcases binary p with dark | lit
  · simp [dark]
  · simp [lit]

theorem switch_binary {s : Screen} (binary : Binary s) (collided : Bool) (p : Pixel) :
    Binary (switch (s, collided) p).1 := by
  intro q
  rw [getElem_switch]
  split
  · split
    · exact .inr rfl
    · exact .inl rfl
  · exact binary q

theorem foldl_switch_binary (pixels : List Pixel) {s : Screen} (binary : Binary s)
    (collided : Bool) : Binary (pixels.foldl switch (s, collided)).1 := by
  induction pixels generalizing s collided with
  | nil => exact binary
  | cons p rest ih => exact ih (switch_binary binary collided p) _

theorem paint_binary {s : Screen} (binary : Binary s) (x y : UInt8) (sprite : List UInt8) :
    Binary (s.paint x y sprite).1 :=
  foldl_switch_binary _ binary false

end Screen

end Chip8

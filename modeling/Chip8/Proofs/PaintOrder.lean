import Chip8.Proofs.Painting

/-!
# The order of painting

Sprites that are painted one after the other switch all their pixels in a row
(`foldl_switch_allPixels`). How often each pixel comes up in that row does not depend on the order of
the sprites, so neither does the screen that they leave nor whether any of them collides, though which
of them does may change (`paint_order`). And painting them all once more, in whatever order, switches
every pixel back.
-/

namespace Chip8

/-- A sprite and where its top left corner goes. -/
structure PaintCall where
  x : UInt8
  y : UInt8
  sprite : List UInt8
  deriving DecidableEq, Repr

namespace PaintCall

/-- The pixels that the sprite switches. -/
def pixels (call : PaintCall) : List Pixel :=
  Screen.spritePixels call.x.toNat call.y.toNat call.sprite

/-- The pixels that one sprite after the other switches. -/
def allPixels (calls : List PaintCall) : List Pixel := calls.flatMap pixels

/-- Some bit of the sprite is set. -/
def Marked (call : PaintCall) : Prop := ∃ bits ∈ call.sprite, ∃ k < 8, bits.toNat.testBit k = true

/-- A byte has a set bit exactly if it is not zero. -/
theorem marked_iff {call : PaintCall} :
    call.Marked ↔ ∃ byte ∈ call.sprite, byte ≠ 0 := by
  refine exists_congr fun byte => and_congr_right fun _ => ?_
  rw [← not_iff_not]
  constructor
  · intro clear nonzero
    refine nonzero (UInt8.toNat_inj.mp (Nat.eq_of_testBit_eq fun k => ?_))
    rw [UInt8.toNat_zero, Nat.zero_testBit]
    by_cases low : k < 8
    · exact Bool.eq_false_iff.mpr fun set => clear ⟨k, low, set⟩
    · have bound : byte.toNat < 2 ^ k :=
        Nat.lt_of_lt_of_le byte.toNat_lt (Nat.pow_le_pow_right (by decide) (Nat.le_of_not_lt low))
      exact Nat.testBit_lt_two_pow bound
  · rintro zero ⟨k, _, set⟩
    rw [Decidable.not_not.mp zero] at set
    simp at set

end PaintCall

namespace Screen

open PaintCall

/-- Paints one sprite after the other: the screen at the end, and for each sprite whether it has
collided. -/
def paintAll (s : Screen) : List PaintCall → Screen × List Bool
  | [] => (s, [])
  | call :: rest =>
    let (painted, collided) := s.paint call.x call.y call.sprite
    let (last, flags) := painted.paintAll rest
    (last, collided :: flags)

variable {s : Screen} {calls calls' : List PaintCall}

/-! ## All pixels in a row -/

/-- A collision is never forgotten, and has no part in what is switched next. -/
theorem foldl_switch_collided (ps : List Pixel) (s : Screen) (collided : Bool) :
    ps.foldl switch (s, collided) =
      ((ps.foldl switch (s, false)).1, collided || (ps.foldl switch (s, false)).2) := by
  induction ps generalizing s collided with
  | nil => simp
  | cons p rest ih =>
    rw [List.foldl_cons, List.foldl_cons]
    simp only [switch]
    split
    · exact ih _ collided
    · rw [ih _ true]
      simp

theorem foldl_switch_allPixels (calls : List PaintCall) (s : Screen) :
    (allPixels calls).foldl switch (s, false) =
      ((s.paintAll calls).1, decide (true ∈ (s.paintAll calls).2)) := by
  induction calls generalizing s with
  | nil => rfl
  | cons call rest ih =>
    have painted : call.pixels.foldl switch (s, false) = s.paint call.x call.y call.sprite := rfl
    rw [allPixels, List.flatMap_cons, List.foldl_append, painted, ← allPixels]
    rcases result : s.paint call.x call.y call.sprite with ⟨next, collided⟩
    simp only [paintAll, result]
    rw [foldl_switch_collided, ih]
    cases collided <;> simp

theorem light_paintAll (s : Screen) (calls : List PaintCall) (p : Pixel) :
    (s.paintAll calls).1.light p = (s.light p + (allPixels calls).count p) % 2 := by
  have switched := light_foldl_switch (allPixels calls) s false p
  rwa [foldl_switch_allPixels] at switched

/-- Some sprite collides exactly if some pixel comes up while it is lit. -/
theorem true_mem_paintAll (s : Screen) (calls : List PaintCall) :
    true ∈ (s.paintAll calls).2 ↔ ∃ p, 2 ≤ s.light p + (allPixels calls).count p := by
  have switched := collided_foldl_switch (allPixels calls) s false
  rwa [foldl_switch_allPixels, decide_eq_true_iff, or_iff_right Bool.false_ne_true] at switched

theorem paintAll_binary (binary : s.Binary) (calls : List PaintCall) :
    (s.paintAll calls).1.Binary := by
  have switched := foldl_switch_binary (allPixels calls) binary false
  rwa [foldl_switch_allPixels] at switched

/-! ## Permuted sprites -/

theorem count_allPixels_perm (perm : calls.Perm calls') (p : Pixel) :
    (allPixels calls).count p = (allPixels calls').count p :=
  (perm.flatMap_right _).count_eq p

theorem count_allPixels_twice (perm : calls.Perm calls') (p : Pixel) :
    (allPixels (calls ++ calls')).count p = 2 * (allPixels calls).count p := by
  have same := count_allPixels_perm perm p
  simp only [allPixels, List.flatMap_append, List.count_append] at same ⊢
  omega

theorem light_paintAll_twice (perm : calls.Perm calls') (s : Screen) (p : Pixel) :
    (s.paintAll (calls ++ calls')).1.light p = s.light p := by
  have bound := s.light_le_one p
  rw [light_paintAll, count_allPixels_twice perm]
  omega

theorem setColumns_eq_nil_iff (bits : UInt8) :
    setColumns bits = [] ↔ ∀ k < 8, bits.toNat.testBit k = false := by
  simp only [setColumns, List.filter_eq_nil_iff, List.mem_range, Bool.not_eq_true]
  constructor
  · intro clear k inside
    have mirrored := clear (7 - k) (by omega)
    rwa [show 7 - (7 - k) = k by omega] at mirrored
  · intro clear column _
    exact clear (7 - column) (by omega)

theorem spritePixels_eq_nil_iff (x y : Nat) (sprite : List UInt8) :
    spritePixels x y sprite = [] ↔ ∀ bits ∈ sprite, ∀ k < 8, bits.toNat.testBit k = false := by
  induction sprite generalizing y with
  | nil => simp [spritePixels]
  | cons bits below ih =>
    simp only [spritePixels, List.append_eq_nil_iff, List.map_eq_nil_iff, setColumns_eq_nil_iff, ih,
      List.forall_mem_cons]

/-- Nothing is switched exactly if no sprite has a set bit. -/
theorem allPixels_eq_nil_iff : allPixels calls = [] ↔ ¬ ∃ call ∈ calls, call.Marked := by
  simp only [allPixels, List.flatMap_eq_nil_iff, PaintCall.pixels, spritePixels_eq_nil_iff, Marked,
    not_exists, not_and, Bool.not_eq_true]

/-- In two passes each pixel comes up an even number of times, and the second time it is lit if it was
not the first time. -/
theorem true_mem_paintAll_twice (perm : calls.Perm calls') (s : Screen) :
    true ∈ (s.paintAll (calls ++ calls')).2 ↔ ∃ call ∈ calls, call.Marked := by
  rw [true_mem_paintAll, ← not_iff_not, ← allPixels_eq_nil_iff, List.eq_nil_iff_forall_not_mem,
    not_exists]
  refine forall_congr' fun p => ?_
  have bound := s.light_le_one p
  rw [count_allPixels_twice perm, ← List.count_eq_zero]
  omega

/-- Two neighbouring dots, a sprite for each and one for both. -/
def dots : List PaintCall := [⟨0, 0, [0x80]⟩, ⟨1, 0, [0x80]⟩, ⟨0, 0, [0xC0]⟩]

/-- The same sprites, with the one for both in between. -/
def dotsApart : List PaintCall := [⟨0, 0, [0x80]⟩, ⟨0, 0, [0xC0]⟩, ⟨1, 0, [0x80]⟩]

theorem dots_perm : dots.Perm dotsApart := .cons _ (.swap _ _ _)

/-- Whether the second dot collides depends on what comes before it. -/
theorem flags_dots : (blank.paintAll dots).2 = [false, false, true] ∧
    (blank.paintAll dotsApart).2 = [false, true, true] := by
  decide +kernel

/-- On a screen that stores zeros and ones, the order of sprites matters neither to the screen that
they leave nor to whether any of them collides. After a second pass in any order the screen is what it
was before the first, and in the two passes some sprite has collided exactly if some sprite has a set
bit. Which of them collide, and how many, may depend on the order. -/
theorem paint_order {s : Screen} (binary : s.Binary) {calls calls' : List PaintCall}
    (perm : calls.Perm calls') :
    (s.paintAll calls').1 = (s.paintAll calls).1 ∧
      (true ∈ (s.paintAll calls').2 ↔ true ∈ (s.paintAll calls).2) ∧
      (s.paintAll (calls ++ calls')).1 = s ∧
      (true ∈ (s.paintAll (calls ++ calls')).2 ↔ ∃ call ∈ calls, call.Marked) ∧
      ∃ first second : List PaintCall, first.Perm second ∧
        ¬ (blank.paintAll first).2.Perm (blank.paintAll second).2 := by
  refine ⟨?_, ?_, ?_, true_mem_paintAll_twice perm s, ?_⟩
  · apply Binary.eq_of_light (paintAll_binary binary calls') (paintAll_binary binary calls)
    intro p
    rw [light_paintAll, light_paintAll, count_allPixels_perm perm]
  · simp only [true_mem_paintAll, count_allPixels_perm perm]
  · exact Binary.eq_of_light (paintAll_binary binary _) binary (light_paintAll_twice perm s)
  · refine ⟨dots, dotsApart, dots_perm, ?_⟩
    rw [flags_dots.1, flags_dots.2]
    decide

/-- On a blank screen both orders leave nothing, and the two passes together collide. -/
theorem paint_order_dots :
    blank.Binary ∧ dots.Perm dotsApart ∧
      (blank.paintAll dotsApart).1 = (blank.paintAll dots).1 ∧
      (blank.paintAll (dots ++ dotsApart)).1 = blank ∧
      true ∈ (blank.paintAll (dots ++ dotsApart)).2 := by
  obtain ⟨same, _, restored, collides, _⟩ := paint_order binary_blank dots_perm
  have marked : ∃ call ∈ dots, call.Marked :=
    ⟨⟨0, 0, [0x80]⟩, List.mem_cons_self, marked_iff.mpr ⟨0x80, List.mem_cons_self, by decide⟩⟩
  exact ⟨binary_blank, dots_perm, same, restored, collides.mpr marked⟩

end Screen

end Chip8

import Chip8.Json.Skip
import Chip8.Proofs.JsonLocality

/-!
# Passing over values in front of more text

A value that is passed over ends in the same place when the text goes on, unless it is a number at
the very end (`skipValue_append`). Each step before the last leaves some text, since from the end
there is nothing more to pass over (`eq_nil_of_skipFrom`).
-/

namespace Chip8.Json

variable {s rest : List UInt8}

/-! ## Numbers and strings -/

theorem skipDigits_append (passed : skipDigits s = .ok rest) (more : rest ≠ [])
    (tail : List UInt8) : skipDigits (s ++ tail) = .ok (rest ++ tail) := by
  cases s with
  | nil => cases passed
  | cons b s =>
    refine ite_imp (fun passed => ?_) error_imp passed
    cases passed
    exact congrArg Except.ok (digits_append more tail).2

theorem skipExponent_append (passed : skipExponent s = .ok rest) (more : rest ≠ [])
    (tail : List UInt8) : skipExponent (s ++ tail) = .ok (rest ++ tail) := by
  unfold skipExponent at passed ⊢
  grind [skipDigits_append, skipDigits]

theorem skipUnsigned_append (passed : skipUnsigned s = .ok rest) (more : rest ≠ [])
    (tail : List UInt8) : skipUnsigned (s ++ tail) = .ok (rest ++ tail) := by
  cases s with
  | nil => cases passed
  | cons d s =>
    simp only [List.cons_append, skipUnsigned] at passed ⊢
    refine ite_imp error_imp (fun passed => ?_) passed
    split at passed
    · cases passed
    · rename_i leading
      have stops : s.dropWhile Byte.isDigit ≠ [] := by
        intro none
        simp only [none] at passed
        cases passed
        exact more rfl
      have dropped := (digits_append stops tail).2
      have same : (s.dropWhile Byte.isDigit ++ tail).length < (s ++ tail).length ↔
          (s.dropWhile Byte.isDigit).length < s.length := by
        simp only [List.length_append]
        omega
      obtain ⟨b, after, behind⟩ := List.exists_cons_of_ne_nil stops
      simp only [dropped, same, if_neg leading]
      simp only [behind, List.cons_append] at passed ⊢
      refine ite_imp (fun passed => ?_) (fun passed => skipExponent_append passed more tail) passed
      split at passed
      · cases passed
      · rename_i behindFraction fraction
        have between : behindFraction ≠ [] := by
          intro none
          rw [none] at passed
          cases passed
          exact more rfl
        simp only [skipDigits_append fraction between tail]
        exact skipExponent_append passed more tail

theorem skipString_hex {n : Nat} (hex : readFourHex s = .ok (n, rest)) :
    skipString (Byte.backslash :: 0x75 :: s) = skipString rest := by
  rw [skipString.eq_def]
  simp only [if_neg (show ¬ Byte.backslash = Byte.quote by decide),
    if_neg (show ¬ (simpleEscape? 0x75).isSome by decide), if_true]
  split
  · rename_i refused
    rw [hex] at refused
    cases refused
  · rename_i found
    rw [hex] at found
    cases found
    rfl

theorem skipString_append (passed : skipString s = .ok rest) (tail : List UInt8) :
    skipString (s ++ tail) = .ok (rest ++ tail) := by
  fun_induction skipString s with
  | case1 => cases passed
  | case2 s =>
    cases passed
    unfold skipString
    rfl
  | case3 => cases passed
  | case4 e s simple notQuote ih =>
    rw [List.cons_append, List.cons_append, skipString.eq_def]
    simp only [if_neg notQuote, if_pos simple, if_true]
    exact ih passed
  | case5 => cases passed
  | case6 s n after hex _ _ ih =>
    rw [List.cons_append, List.cons_append, skipString_hex (readFourHex_append hex tail)]
    exact ih passed
  | case7 => cases passed
  | case8 => cases passed
  | case9 b s notQuote notBackslash printable ih =>
    rw [List.cons_append, skipString.eq_def]
    simp only [if_neg notQuote, if_neg notBackslash, if_neg printable]
    exact ih passed

/-! ## Steps -/

theorem skipKey_append {bracket : Bracket} (passed : skipKey bracket s = .ok rest)
    (tail : List UInt8) : skipKey bracket (s ++ tail) = .ok (rest ++ tail) := by
  cases bracket with
  | list =>
    cases passed
    rfl
  | object =>
    simp only [skipKey] at passed ⊢
    split at passed
    · cases passed
    · rename_i b after front
      simp only [skipBlank_append_of_eq_cons front tail]
      refine ite_imp (fun passed => ?_) error_imp passed
      split at passed
      · cases passed
      · rename_i key
        simp only [skipString_append key tail]
        exact expectColon_append passed tail

/-- What a step passes over, and where it leads. -/
theorem map_step_append {γ δ : Type} {a v : γ} {b w : δ} {x y : Except Error (List UInt8)}
    {tail : List UInt8} (longer : x = .ok rest → y = .ok (rest ++ tail))
    (step : x.map (fun r => (a, b, r)) = .ok (v, w, rest)) :
    y.map (fun r => (a, b, r)) = .ok (v, w, rest ++ tail) := by
  obtain ⟨r, passed, leads⟩ := exists_of_map_eq_ok step
  cases leads
  rw [longer passed]
  rfl

variable {pending next : Pending} {brackets inner : List Bracket}

theorem skipStep_append (step : skipStep pending brackets s = .ok (next, inner, rest))
    (more : rest ≠ []) (tail : List UInt8) :
    skipStep pending brackets (s ++ tail) = .ok (next, inner, rest ++ tail) := by
  cases pending with
  | value =>
    simp only [skipStep] at step ⊢
    split at step
    · cases step
    · rename_i b after front
      simp only [skipBlank_append_of_eq_cons front tail]
      refine ite_imp ?list (ite_imp ?object (ite_imp ?string (ite_imp ?negative (ite_imp ?number
        (ite_imp ?null (ite_imp ?yes (ite_imp ?no error_imp))))))) step
      case list | object =>
        intro opened
        cases opened
        rfl
      case string => exact map_step_append fun passed => skipString_append passed tail
      case negative | number =>
        exact map_step_append fun passed => skipUnsigned_append passed more tail
      case null | yes | no =>
        exact map_step_append fun passed => expectLetters_append_right passed tail
  | firstItem =>
    cases brackets with
    | nil =>
      cases step
      rfl
    | cons bracket outer =>
      simp only [skipStep] at step ⊢
      split at step
      · cases step
      · rename_i b after front
        simp only [skipBlank_append_of_eq_cons front tail]
        refine ite_imp ?close ?key step
        case close =>
          intro closed
          cases closed
          rfl
        case key => exact map_step_append fun passed => skipKey_append passed tail
  | moreItems =>
    cases brackets with
    | nil =>
      cases step
      rfl
    | cons bracket outer =>
      simp only [skipStep] at step ⊢
      split at step
      · cases step
      · rename_i b after front
        simp only [skipBlank_append_of_eq_cons front tail]
        refine ite_imp ?close (ite_imp ?key error_imp) step
        case close =>
          intro closed
          cases closed
          rfl
        case key => exact map_step_append fun passed => skipKey_append passed tail

/-! ## Whole values -/

theorem skipFrom_done (step : skipStep pending brackets s = .ok (.moreItems, [], rest))
    (fuel : Nat) : skipFrom (fuel + 1) pending brackets s = .ok rest := by
  simp only [skipFrom, step]

theorem skipFrom_step (step : skipStep pending brackets s = .ok (next, inner, rest))
    (onward : ¬ (next = .moreItems ∧ inner = [])) (fuel : Nat) :
    skipFrom (fuel + 1) pending brackets s = skipFrom fuel next inner rest := by
  simp only [skipFrom, step]
  split
  · cases ‹Except.ok _ = Except.error _›
  · cases ‹Except.ok _ = Except.ok _›
    exact absurd ⟨rfl, rfl⟩ onward
  · cases ‹Except.ok _ = Except.ok _›
    rfl

theorem eq_nil_of_skipFrom {fuel : Nat} (passed : skipFrom fuel pending brackets [] = .ok rest) :
    rest = [] := by
  induction fuel generalizing pending brackets with
  | zero => cases passed
  | succ fuel ih =>
    cases pending with
    | value => cases passed
    | firstItem =>
      cases brackets with
      | nil => exact ih passed
      | cons => cases passed
    | moreItems =>
      cases brackets with
      | nil =>
        cases passed
        rfl
      | cons => cases passed

theorem skipFrom_append {fuel longer : Nat} (enough : fuel ≤ longer)
    (passed : skipFrom fuel pending brackets s = .ok rest) (more : rest ≠ [])
    (tail : List UInt8) : skipFrom longer pending brackets (s ++ tail) = .ok (rest ++ tail) := by
  induction fuel generalizing longer pending brackets s with
  | zero => cases passed
  | succ fuel ih =>
    obtain ⟨longer, rfl⟩ := Nat.exists_eq_add_one_of_ne_zero (Nat.ne_zero_of_lt enough)
    cases step : skipStep pending brackets s with
    | error e =>
      simp only [skipFrom, step] at passed
      cases passed
    | ok result =>
      obtain ⟨next, inner, after⟩ := result
      by_cases done : next = .moreItems ∧ inner = []
      · obtain ⟨rfl, rfl⟩ := done
        rw [skipFrom_done step, Except.ok.injEq] at passed
        subst passed
        exact skipFrom_done (skipStep_append step more tail) longer
      · rw [skipFrom_step step done] at passed
        have between : after ≠ [] := by
          intro none
          subst none
          exact more (eq_nil_of_skipFrom passed)
        rw [skipFrom_step (skipStep_append step between tail) done]
        exact ih (Nat.le_of_succ_le_succ enough) passed

theorem skipValue_append {fuel longer : Nat} (enough : fuel ≤ longer)
    (passed : skipValue fuel s = .ok rest) (more : rest ≠ []) (tail : List UInt8) :
    skipValue longer (s ++ tail) = .ok (rest ++ tail) :=
  skipFrom_append (by omega) passed more tail

end Chip8.Json

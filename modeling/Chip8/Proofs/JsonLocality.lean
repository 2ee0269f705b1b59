import Chip8.Proofs.JsonRoundTrip

/-!
# Reading in front of more text

A reader takes a value from the front of a text without looking at what comes behind it. So when more
is appended to the text, it reads the same value and leaves the rest with the addition: this is what
the lemmas `*_append` say, one for each reader. Where a value ends by itself, like a string or a list,
this is always so (`readString_append`, `readList_append`). Digits may go on, so a number has to be
followed by something already (`readNumber_append`); readers of which no more is known are `Local`.
-/

namespace Chip8.Json

variable {α : Type} {s rest : List UInt8}

/-- Two choices on one condition, compared outcome by outcome. -/
theorem ite_imp {β : Type} {c : Prop} [Decidable c] {x x' y y' v v' : β} (yes : x = v → y = v')
    (no : x' = v → y' = v') (chosen : (if c then x else x') = v) : (if c then y else y') = v' := by
  split at chosen
  · exact (if_pos ‹c›).trans (yes chosen)
  · exact (if_neg ‹¬ c›).trans (no chosen)

theorem error_imp {β : Type} {e : Error} {v : β} {p : Prop} (refused : Except.error e = .ok v) :
    p := by
  cases refused

theorem exists_of_bind_eq_ok {β : Type} {x : Except Error α} {f : α → Except Error β} {b : β}
    (success : (x >>= f) = .ok b) : ∃ a, x = .ok a ∧ f a = .ok b := by
  cases x with
  | error e => cases success
  | ok a => exact ⟨a, rfl, success⟩

/-! ## Places -/

theorem skipBlank_append (solid : skipBlank s ≠ []) (tail : List UInt8) :
    skipBlank (s ++ tail) = skipBlank s ++ tail := by
  unfold skipBlank at solid ⊢
  rw [List.dropWhile_append, if_neg (by simpa using solid)]

theorem skipBlank_append_of_eq_cons {b : UInt8} {after : List UInt8}
    (front : skipBlank s = b :: after) (tail : List UInt8) :
    skipBlank (s ++ tail) = b :: (after ++ tail) := by
  rw [skipBlank_append (front ▸ List.cons_ne_nil b after), front, List.cons_append]

theorem expectLetters_append_right {letters : List UInt8}
    (passed : expectLetters letters s = .ok rest) (tail : List UInt8) :
    expectLetters letters (s ++ tail) = .ok (rest ++ tail) := by
  fun_induction expectLetters letters s with
  | case1 s =>
    cases passed
    simp only [expectLetters]
  | case2 => cases passed
  | case3 letters b s ih => simp only [List.cons_append, expectLetters, ih passed, if_true]
  | case4 => cases passed

/-- The same, with more text at the end. -/
def Next.append (tail : List UInt8) : Next → Next
  | item s => item (s ++ tail)
  | close rest => close (rest ++ tail)

theorem nextInList_append {first : Bool} {next : Next} (found : nextInList first s = .ok next)
    (tail : List UInt8) : nextInList first (s ++ tail) = .ok (next.append tail) := by
  unfold nextInList at found ⊢
  grind [Next.append, skipBlank_append]

theorem nextInObject_append {first : Bool} {next : Next} (found : nextInObject first s = .ok next)
    (tail : List UInt8) : nextInObject first (s ++ tail) = .ok (next.append tail) := by
  unfold nextInObject at found ⊢
  grind [Next.append, skipBlank_append]

theorem closeFullList_append (closed : closeFullList s = .ok rest) (tail : List UInt8) :
    closeFullList (s ++ tail) = .ok (rest ++ tail) := by
  unfold closeFullList at closed ⊢
  grind [skipBlank_append]

theorem expectColon_append (passed : expectColon s = .ok rest) (tail : List UInt8) :
    expectColon (s ++ tail) = .ok (rest ++ tail) := by
  unfold expectColon at passed ⊢
  grind [skipBlank_append]

/-! ## Numbers -/

theorem digits_append (stops : s.dropWhile Byte.isDigit ≠ []) (tail : List UInt8) :
    (s ++ tail).takeWhile Byte.isDigit = s.takeWhile Byte.isDigit ∧
      (s ++ tail).dropWhile Byte.isDigit = s.dropWhile Byte.isDigit ++ tail := by
  constructor
  · have whole := congrArg List.length (List.takeWhile_append_dropWhile (p := Byte.isDigit) (l := s))
    have some := List.length_pos_iff.mpr stops
    rw [List.length_append] at whole
    rw [List.takeWhile_append, if_neg (by omega)]
  · rw [List.dropWhile_append, if_neg (by simpa using stops)]

/-- Something computed, and the text behind it. -/
theorem map_append {x : Except Error α} {v : α} {r : List UInt8}
    (read : x.map (·, r) = .ok (v, rest)) (tail : List UInt8) :
    r = rest ∧ x.map (·, r ++ tail) = .ok (v, rest ++ tail) := by
  obtain ⟨a, rfl, pair⟩ := exists_of_map_eq_ok read
  cases pair
  exact ⟨rfl, rfl⟩

section

variable {negative : Bool} {significand : Nat} {scale : Int} {n : Number}

theorem readExponent_append (read : readExponent negative significand scale s = .ok (n, rest))
    (more : rest ≠ []) (tail : List UInt8) :
    readExponent negative significand scale (s ++ tail) = .ok (n, rest ++ tail) := by
  unfold readExponent at read ⊢
  cases s with
  | nil => cases read
  | cons b s =>
    -- The digits begin here, or behind a sign.
    have signed : ∃ down digits,
        (if b = Byte.plus then (false, s) else if b = Byte.minus then (true, s)
          else (false, b :: s)) = (down, digits) ∧
        (if b = Byte.plus then (false, s ++ tail) else if b = Byte.minus then (true, s ++ tail)
          else (false, b :: (s ++ tail))) = (down, digits ++ tail) := by
      repeat' split
      all_goals exact ⟨_, _, rfl, rfl⟩
    obtain ⟨down, digits, here, longer⟩ := signed
    simp only [List.cons_append, here, longer] at read ⊢
    cases digits with
    | nil => cases read
    | cons c digits =>
      refine ite_imp (fun read => ?_) error_imp read
      split at read
      · rename_i e reached
        obtain ⟨rfl, appended⟩ := map_append read tail
        obtain ⟨taken, dropped⟩ := digits_append more tail
        simp only [taken, dropped, reached]
        exact appended
      · rename_i e d left reached
        split at read
        · cases read
        · rename_i small
          obtain ⟨rfl, appended⟩ := map_append read tail
          obtain ⟨taken, dropped⟩ := digits_append more tail
          simp only [taken, dropped, reached, if_neg small]
          exact appended

theorem readScaled_append (read : readScaled negative significand scale s = .ok (n, rest))
    (more : rest ≠ []) (tail : List UInt8) :
    readScaled negative significand scale (s ++ tail) = .ok (n, rest ++ tail) := by
  unfold readScaled at read ⊢
  cases s with
  | nil => exact absurd (map_append read tail).1.symm more
  | cons b s =>
    exact ite_imp (fun read => readExponent_append read more tail)
      (fun read => (map_append read tail).2) read

theorem readFraction_append (read : readFraction negative significand scale s = .ok (n, rest))
    (more : rest ≠ []) (tail : List UInt8) :
    readFraction negative significand scale (s ++ tail) = .ok (n, rest ++ tail) := by
  simp only [readFraction] at read ⊢
  split at read
  · split at read <;> cases read
  · rename_i digits
    have stops : s.dropWhile Byte.isDigit ≠ [] := by
      intro none
      rw [none] at read
      exact more (map_append read tail).1.symm
    obtain ⟨taken, dropped⟩ := digits_append stops tail
    rw [taken, dropped, if_neg digits]
    exact readScaled_append read more tail

theorem readUnsigned_append (read : readUnsigned negative s = .ok (n, rest)) (more : rest ≠ [])
    (tail : List UInt8) : readUnsigned negative (s ++ tail) = .ok (n, rest ++ tail) := by
  simp only [readUnsigned] at read ⊢
  split at read
  · split at read <;> cases read
  · rename_i d ds digits
    split at read
    · cases read
    · rename_i leading
      have stops : s.dropWhile Byte.isDigit ≠ [] := by
        intro none
        simp only [none] at read
        split at read <;> exact more (map_append read tail).1.symm
      obtain ⟨taken, dropped⟩ := digits_append stops tail
      obtain ⟨b, after, behind⟩ := List.exists_cons_of_ne_nil stops
      simp only [taken, dropped, digits, if_neg leading, behind, List.cons_append] at read ⊢
      refine ite_imp ?fraction (ite_imp ?exponent (ite_imp ?whole ?large)) read
      case fraction => exact fun read => readFraction_append read more tail
      case exponent => exact fun read => readExponent_append read more tail
      case whole | large => exact fun read => (map_append read tail).2

theorem readNumber_append (read : readNumber s = .ok (n, rest)) (more : rest ≠ [])
    (tail : List UInt8) : readNumber (s ++ tail) = .ok (n, rest ++ tail) := by
  cases s with
  | nil => cases read
  | cons b s =>
    exact ite_imp (fun read => readUnsigned_append read more tail)
      (fun read => readUnsigned_append read more tail) read

end

/-! ## Strings -/

theorem readFourHex_append {n : Nat} (read : readFourHex s = .ok (n, rest)) (tail : List UInt8) :
    readFourHex (s ++ tail) = .ok (n, rest ++ tail) := by
  unfold readFourHex at read
  split at read
  · simp only [List.cons_append, readFourHex]
    split at read
    · cases read
      simp only [*]
    · cases read
  · cases read

theorem readLowerHalf_append {n : Nat} (read : readLowerHalf s = .ok (n, rest))
    (tail : List UInt8) : readLowerHalf (s ++ tail) = .ok (n, rest ++ tail) := by
  unfold readLowerHalf at read ⊢
  grind [readFourHex_append]

theorem readCodePoint_append {n : Nat} (read : readCodePoint s = .ok (n, rest))
    (tail : List UInt8) : readCodePoint (s ++ tail) = .ok (n, rest ++ tail) := by
  unfold readCodePoint at read ⊢
  split at read
  · cases read
  · rename_i hex
    simp only [readFourHex_append hex tail]
    refine ite_imp error_imp (ite_imp ?upper ?single) read
    case upper =>
      intro read
      obtain ⟨⟨low, after⟩, half, pair⟩ := exists_of_map_eq_ok read
      rw [Prod.mk.injEq] at pair
      obtain ⟨rfl, rfl⟩ := pair
      rw [readLowerHalf_append half tail]
      rfl
    case single =>
      intro read
      cases read
      rfl

theorem readEscape_append {bytes : List UInt8} (read : readEscape s = .ok (bytes, rest))
    (tail : List UInt8) : readEscape (s ++ tail) = .ok (bytes, rest ++ tail) := by
  cases s with
  | nil => cases read
  | cons b s =>
    simp only [List.cons_append, readEscape] at read ⊢
    split at read
    · cases read
      rfl
    · refine ite_imp (fun read => ?_) error_imp read
      obtain ⟨_, point, pair⟩ := exists_of_map_eq_ok read
      cases pair
      rw [readCodePoint_append point tail]
      rfl

theorem gatherString_escape {bytes : List UInt8} (escape : readEscape s = .ok (bytes, rest))
    (gathered : List UInt8) : gatherString gathered (Byte.backslash :: s) =
      gatherString (bytes.reverse ++ gathered) rest := by
  rw [gatherString, if_neg (by decide), if_pos rfl]
  split
  · rename_i refused
    rw [escape] at refused
    cases refused
  · rename_i found
    rw [escape] at found
    cases found
    rfl

theorem gatherString_append_right {gathered bytes : List UInt8}
    (read : gatherString gathered s = .ok (bytes, rest)) (tail : List UInt8) :
    gatherString gathered (s ++ tail) = .ok (bytes, rest ++ tail) := by
  fun_induction gatherString gathered s with
  | case1 => cases read
  | case2 gathered s =>
    cases read
    rw [List.cons_append, gatherString, if_pos rfl]
  | case3 => cases read
  | case4 gathered s escaped after escape _ ih =>
    rw [List.cons_append, gatherString_escape (readEscape_append escape tail)]
    exact ih read
  | case5 => cases read
  | case6 gathered b s notQuote notBackslash printable ih =>
    rw [List.cons_append, gatherString, if_neg notQuote, if_neg notBackslash, if_neg printable]
    exact ih read

theorem readString_append {text : String} (read : readString s = .ok (text, rest))
    (tail : List UInt8) : readString (s ++ tail) = .ok (text, rest ++ tail) := by
  unfold readString at read ⊢
  split at read
  · cases read
  · rename_i gathered
    simp only [gatherString_append_right gathered tail]
    split at read
    · cases read
      rfl
    · cases read

/-! ## Values -/

/-- What `read` takes from a text and stops before its end, `longer` takes from a longer one. -/
def Local (read longer : List UInt8 → Reading α) : Prop :=
  ∀ ⦃s v rest⦄, read s = .ok (v, rest) → rest ≠ [] →
    ∀ tail, longer (s ++ tail) = .ok (v, rest ++ tail)

theorem Local.map {β : Type} {read longer : List UInt8 → Reading α} (loc : Local read longer)
    (f : α → β) : Local (fun s => (read s).map fun (a, rest) => (f a, rest))
      fun s => (longer s).map fun (a, rest) => (f a, rest) := by
  intro s v rest found more tail
  obtain ⟨⟨a, after⟩, inner, pair⟩ := exists_of_map_eq_ok found
  cases pair
  simp only [loc inner more tail]
  rfl

theorem readNatural_local (wanted : Wanted) (bound : Nat) :
    Local (readNatural wanted bound) (readNatural wanted bound) := by
  intro s n rest read more tail
  unfold readNatural at read ⊢
  split at read
  · cases read
  · rename_i b after front
    simp only [skipBlank_append_of_eq_cons front tail]
    refine ite_imp (fun read => ?_) error_imp read
    split at read
    · cases read
    · rename_i whole behind number
      split at read
      · rename_i inside
        cases read
        simp only [← List.cons_append, readNumber_append number more tail, if_pos inside]
      · cases read
    · cases read

theorem readByte_local : Local readByte readByte :=
  (readNatural_local .byte UInt8.size).map UInt8.ofNat

theorem readWord_local : Local readWord readWord :=
  (readNatural_local .word UInt16.size).map UInt16.ofNat

theorem readFlag_local : Local readFlag readFlag := by
  intro s v rest read _ tail
  unfold readFlag at read ⊢
  split at read
  · cases read
  · rename_i b after front
    simp only [skipBlank_append_of_eq_cons front tail]
    refine ite_imp ?yes (ite_imp ?no error_imp) read
    case yes | no =>
      intro spelled
      obtain ⟨behind, letters, pair⟩ := exists_of_map_eq_ok spelled
      cases pair
      rw [expectLetters_append_right letters tail]
      rfl

/-! ## Lists -/

theorem expectList_append {wanted : Wanted} (opened : expectList wanted s = .ok rest)
    (tail : List UInt8) : expectList wanted (s ++ tail) = .ok (rest ++ tail) := by
  unfold expectList at opened ⊢
  split at opened
  · cases opened
  · rename_i b after front
    simp only [skipBlank_append_of_eq_cons front tail]
    refine ite_imp (fun opened => ?_) error_imp opened
    cases opened
    rfl

section

variable {item item' : List UInt8 → Reading α}

/-- Behind an item something is left, if only the closing bracket. -/
theorem gatherItems_append (loc : Local item item') {fuel longer : Nat} (enough : fuel ≤ longer)
    {first : Bool} {gathered as : List α}
    (read : gatherItems item fuel first gathered s = .ok (as, rest)) (tail : List UInt8) :
    gatherItems item' longer first gathered (s ++ tail) = .ok (as, rest ++ tail) := by
  induction fuel generalizing longer first gathered s with
  | zero => cases read
  | succ fuel ih =>
    obtain ⟨longer, rfl⟩ := Nat.exists_eq_add_one_of_ne_zero (Nat.ne_zero_of_lt enough)
    simp only [gatherItems] at read ⊢
    split at read
    · cases read
    · rename_i after next
      cases read
      simp only [nextInList_append next tail, Next.append]
    · rename_i inside next
      simp only [nextInList_append next tail, Next.append]
      split at read
      · cases read
      · rename_i a behind found
        have more : behind ≠ [] := by
          intro none
          subst none
          cases fuel <;> cases read
        simp only [loc found more tail]
        exact ih (Nat.le_of_succ_le_succ enough) read

theorem readList_append (loc : Local item item') {fuel longer : Nat} (enough : fuel ≤ longer)
    {as : List α} (read : readList fuel item s = .ok (as, rest)) (tail : List UInt8) :
    readList longer item' (s ++ tail) = .ok (as, rest ++ tail) := by
  unfold readList at read ⊢
  split at read
  · cases read
  · rename_i inside opened
    simp only [expectList_append opened tail]
    exact gatherItems_append loc (Nat.succ_le_succ enough) read tail

theorem readItems_append (loc : Local item item') {wanted : Wanted} {before count : Nat}
    {as : List α} (read : readItems item wanted before count s = .ok (as, rest))
    (tail : List UInt8) :
    readItems item' wanted before count (s ++ tail) = .ok (as, rest ++ tail) := by
  induction count generalizing before s as with
  | zero =>
    obtain ⟨after, closed, pair⟩ := exists_of_map_eq_ok read
    cases pair
    simp only [readItems, closeFullList_append closed tail]
    rfl
  | succ count ih =>
    simp only [readItems] at read ⊢
    split at read
    · cases read
    · cases read
    · rename_i inside next
      simp only [nextInList_append next tail, Next.append]
      split at read
      · cases read
      · rename_i a behind found
        obtain ⟨⟨others, after⟩, later, pair⟩ := exists_of_map_eq_ok read
        cases pair
        have more : behind ≠ [] := by
          intro none
          subst none
          cases count <;> cases later
        simp only [loc found more tail, ih later]
        rfl

theorem readSixteen_append (loc : Local item item') {values : Vector α 16}
    (read : readSixteen item s = .ok (values, rest)) (tail : List UInt8) :
    readSixteen item' (s ++ tail) = .ok (values, rest ++ tail) := by
  unfold readSixteen at read
  split at read
  · cases read
  · rename_i inside opened
    split at read
    · cases read
    · rename_i as after found
      cases read
      exact readSixteen_of_readItems (expectList_append opened tail)
        (readItems_append loc found tail)

end

end Chip8.Json

import Chip8.Json.Printer
import Chip8.Json.Value

/-!
# Reading written values

What the printer writes for a number, a truth value, a string without escapes or a list, the readers
give back, and they stop behind it whatever comes next. A number ends only where something else
begins, so values are read in front of a comma or a closing bracket (`Written`); brackets and quotes
end by themselves (`readList_written`, `readSixteen_written`, `readString_ascii`).
-/

namespace Chip8.Json

/-- The text begins with a comma or a closing bracket, as it does behind a value in a list or an
object. -/
def EndsValue (rest : List UInt8) : Prop :=
  ∃ b more, rest = b :: more ∧ (b = Byte.comma ∨ b = Byte.closeList ∨ b = Byte.closeObject)

/-- The text of a value: it begins with the value's own first byte, and the reader takes just the
text. -/
structure Written {α : Type} (read : List UInt8 → Reading α) (value : α) (text : List UInt8) :
    Prop where
  begins : ∃ b more, text = b :: more ∧ Byte.isBlank b = false ∧ b ≠ Byte.closeList
  reads : ∀ rest, EndsValue rest → read (text ++ rest) = .ok (value, rest)

theorem skipBlank_cons {b : UInt8} (solid : Byte.isBlank b = false) (s : List UInt8) :
    skipBlank (b :: s) = b :: s := by
  simp [skipBlank, solid]

/-! ## Numbers -/

theorem digit_cases {d : Nat} (small : d < 10) :
    Byte.isDigit (Byte.digit d) = true ∧ digitValue (Byte.digit d) = d ∧
      (Byte.digit d = 0x30 → d = 0) := by
  revert d
  decide

theorem isDigit_cases {b : UInt8} (digit : Byte.isDigit b = true) :
    Byte.isBlank b = false ∧ b ≠ Byte.minus ∧ b ≠ Byte.closeList := by
  simp only [Byte.isDigit, Bool.and_eq_true, decide_eq_true_eq, UInt8.le_iff_toNat_le] at digit
  simp only [Byte.isBlank, Byte.minus, Byte.closeList, Bool.or_eq_false_iff, beq_eq_false_iff_ne,
    ne_eq, ← UInt8.toNat_inj]
  simp only [UInt8.reduceToNat] at digit ⊢
  omega

theorem isDigit_printNatural (n : Nat) : ∀ b ∈ printNatural n, Byte.isDigit b = true := by
  induction n using printNatural.induct with
  | case1 n small =>
    intro b member
    rw [printNatural, if_pos small, List.mem_singleton] at member
    rw [member]
    exact (digit_cases small).1
  | case2 n large ih =>
    intro b member
    rw [printNatural, if_neg large, List.mem_append, List.mem_singleton] at member
    rcases member with front | rfl
    · exact ih b front
    · exact (digit_cases (Nat.mod_lt n (by decide))).1

/-- No number but zero begins with the digit zero. -/
theorem printNatural_eq_cons (n : Nat) :
    ∃ d more, printNatural n = Byte.digit d :: more ∧ d < 10 ∧ (d = 0 → more = []) ∧
      (0 < n → 0 < d) := by
  induction n using printNatural.induct with
  | case1 n small => exact ⟨n, [], by rw [printNatural, if_pos small], small, fun _ => rfl, id⟩
  | case2 n large ih =>
    obtain ⟨d, more, front, small, _, positive⟩ := ih
    have leads : 0 < d := positive (by omega)
    refine ⟨d, more ++ [Byte.digit (n % 10)], ?_, small, fun zero => by omega, fun _ => leads⟩
    rw [printNatural, if_neg large, front]
    rfl

theorem appendDigits_append {limit a b d : Nat} {digits : List UInt8}
    (reached : appendDigits limit a digits = (b, [])) (small : d < 10) (fits : b * 10 + d < limit) :
    appendDigits limit a (digits ++ [Byte.digit d]) = (b * 10 + d, []) := by
  induction digits generalizing a with
  | nil =>
    cases reached
    simp only [List.nil_append, appendDigits, (digit_cases small).2.1, if_pos fits]
  | cons e rest ih =>
    simp only [appendDigits] at reached
    split at reached
    · rename_i inside
      simp only [List.cons_append, appendDigits, if_pos inside]
      exact ih reached
    · cases reached

theorem appendDigits_printNatural {limit n : Nat} (fits : n < limit) :
    appendDigits limit 0 (printNatural n) = (n, []) := by
  induction n using printNatural.induct with
  | case1 n small =>
    rw [printNatural, if_pos small]
    simp [appendDigits, (digit_cases small).2.1, fits]
  | case2 n large ih =>
    have parts : n / 10 * 10 + n % 10 = n := by omega
    have front := ih (by omega)
    have whole := appendDigits_append front (Nat.mod_lt n (by decide)) (by omega)
    rw [printNatural, if_neg large, whole, parts]

/-- Digits in front of the end of a value are taken up to there. -/
theorem takeWhile_digits {digits rest : List UInt8} (all : ∀ b ∈ digits, Byte.isDigit b = true)
    (ends : EndsValue rest) :
    (digits ++ rest).takeWhile Byte.isDigit = digits ∧
      (digits ++ rest).dropWhile Byte.isDigit = rest := by
  obtain ⟨b, more, rfl, ending⟩ := ends
  have stops : Byte.isDigit b = false := by rcases ending with rfl | rfl | rfl <;> decide
  constructor
  · rw [List.takeWhile_append_of_pos all, List.takeWhile_cons_of_neg (by simp [stops]),
      List.append_nil]
  · rw [List.dropWhile_append_of_pos all, List.dropWhile_cons_of_neg (by simp [stops])]

theorem readUnsigned_printNatural {n : Nat} {rest : List UInt8} (fits : n < UInt64.size)
    (ends : EndsValue rest) :
    readUnsigned false (printNatural n ++ rest) = .ok (.integer n, rest) := by
  obtain ⟨taken, dropped⟩ := takeWhile_digits (isDigit_printNatural n) ends
  obtain ⟨d, more, digits, small, leading, _⟩ := printNatural_eq_cons n
  have plain : ¬ (Byte.digit d = 0x30 ∧ ¬ more.isEmpty) := by
    rintro ⟨zero, longer⟩
    exact longer (by rw [leading ((digit_cases small).2.2 zero)]; rfl)
  obtain ⟨b, after, rfl, ending⟩ := ends
  have notScaled : b ≠ 0x2E ∧ ¬ (b = 0x65 ∨ b = 0x45) := by
    rcases ending with rfl | rfl | rfl <;> decide
  simp only [readUnsigned, taken, dropped]
  rw [digits]
  simp only [if_neg plain]
  rw [← digits, appendDigits_printNatural fits]
  simp only [if_neg notScaled.1, if_neg notScaled.2]
  rfl

theorem readNumber_printNatural {n : Nat} {rest : List UInt8} (fits : n < UInt64.size)
    (ends : EndsValue rest) : readNumber (printNatural n ++ rest) = .ok (.integer n, rest) := by
  obtain ⟨d, more, digits, small, _⟩ := printNatural_eq_cons n
  have unsigned := readUnsigned_printNatural fits ends
  rw [digits] at unsigned ⊢
  simp only [List.cons_append, readNumber,
    if_neg (isDigit_cases (digit_cases small).1).2.1] at unsigned ⊢
  exact unsigned

theorem readNatural_written {wanted : Wanted} {bound n : Nat} (below : n < bound)
    (narrow : bound ≤ UInt64.size) : Written (readNatural wanted bound) n (printNatural n) := by
  obtain ⟨d, more, digits, small, _⟩ := printNatural_eq_cons n
  have digit := (digit_cases small).1
  obtain ⟨solid, _, notClosing⟩ := isDigit_cases digit
  refine ⟨⟨_, more, digits, solid, notClosing⟩, fun rest ends => ?_⟩
  have number := readNumber_printNatural (Nat.lt_of_lt_of_le below narrow) ends
  have inside : (0 : Int) ≤ n ∧ (n : Int) < bound := by omega
  rw [digits] at number ⊢
  rw [List.cons_append] at number ⊢
  simp only [readNatural, skipBlank_cons solid, if_pos (Or.inr digit), number, if_pos inside]
  rfl

theorem readByte_written (v : UInt8) : Written readByte v (printNatural v.toNat) := by
  have number : Written (readNatural .byte UInt8.size) v.toNat _ :=
    readNatural_written v.toNat_lt (by decide)
  refine ⟨number.begins, fun rest ends => ?_⟩
  rw [readByte, number.reads rest ends]
  exact congrArg (fun w => Except.ok (w, rest)) UInt8.ofNat_toNat

theorem readWord_written (v : UInt16) : Written readWord v (printNatural v.toNat) := by
  have number : Written (readNatural .word UInt16.size) v.toNat _ :=
    readNatural_written v.toNat_lt (by decide)
  refine ⟨number.begins, fun rest ends => ?_⟩
  rw [readWord, number.reads rest ends]
  exact congrArg (fun w => Except.ok (w, rest)) UInt16.ofNat_toNat

/-! ## Letters and strings -/

theorem expectLetters_append (letters rest : List UInt8) :
    expectLetters letters (letters ++ rest) = .ok rest := by
  induction letters with
  | nil => rfl
  | cons l letters ih =>
    rw [List.cons_append, expectLetters, if_pos rfl]
    exact ih

theorem readFlag_written (b : Bool) : Written readFlag b (printFlag b) := by
  cases b with
  | true =>
    have letters : ascii "true" = 0x74 :: ascii "rue" := rfl
    refine ⟨⟨_, _, letters, by decide, by decide⟩, fun rest _ => ?_⟩
    rw [printFlag, if_pos rfl, letters, List.cons_append, readFlag, skipBlank_cons (by decide)]
    simp only [if_true, expectLetters_append]
    rfl
  | false =>
    have letters : ascii "false" = 0x66 :: ascii "alse" := rfl
    refine ⟨⟨_, _, letters, by decide, by decide⟩, fun rest _ => ?_⟩
    rw [printFlag, if_neg (by decide), letters, List.cons_append, readFlag,
      skipBlank_cons (by decide)]
    simp only [expectLetters_append]
    rfl

/-- A string without quotes, backslashes and control characters stands for itself. -/
def Plain (s : String) : Prop :=
  ∀ b ∈ ascii s, b ≠ Byte.quote ∧ b ≠ Byte.backslash ∧ ¬ b < 0x20

instance (s : String) : Decidable (Plain s) := List.decidableBAll _ (ascii s)

theorem gatherString_append {bytes : List UInt8}
    (plain : ∀ b ∈ bytes, b ≠ Byte.quote ∧ b ≠ Byte.backslash ∧ ¬ b < 0x20)
    (gathered rest : List UInt8) :
    gatherString gathered (bytes ++ Byte.quote :: rest) =
      .ok (gathered.reverse ++ bytes, rest) := by
  induction bytes generalizing gathered with
  | nil =>
    rw [List.nil_append, gatherString, if_pos rfl, List.append_nil]
  | cons b bytes ih =>
    obtain ⟨notQuote, notBackslash, printable⟩ := plain b List.mem_cons_self
    have later := ih (fun c member => plain c (List.mem_cons_of_mem b member)) (b :: gathered)
    rw [List.cons_append, gatherString, if_neg notQuote, if_neg notBackslash, if_neg printable,
      later, List.reverse_cons, List.append_assoc]
    rfl

theorem readString_ascii {s : String} (plain : Plain s) (rest : List UInt8) :
    readString (ascii s ++ Byte.quote :: rest) = .ok (s, rest) := by
  have text : String.fromUTF8? (ByteArray.mk (ascii s).toArray) = some s := dif_pos s.isValidUTF8
  simp only [readString, gatherString_append plain, List.reverse_nil, List.nil_append, text]

/-! ## Lists -/

theorem separated_cons (item : List UInt8) (items : List (List UInt8)) :
    separated (item :: items) = item ++ items.flatMap (Byte.comma :: ·) := by
  induction items generalizing item with
  | nil => simp [separated]
  | cons next rest ih =>
    rw [separated, ih, List.flatMap_cons, List.cons_append]
    exact fun empty => by cases empty

theorem length_le_separated (items : List (List UInt8)) :
    items.length ≤ (separated items).length + 1 := by
  induction items using separated.induct with
  | case1 => exact Nat.zero_le _
  | case2 item => exact Nat.le_add_left 1 _
  | case3 item items more ih =>
    rw [separated]
    · simp only [List.length_cons, List.length_append]
      omega
    · exact more

theorem length_le_separated_of_mem {item : List UInt8} {items : List (List UInt8)}
    (member : item ∈ items) : item.length ≤ (separated items).length := by
  induction items using separated.induct with
  | case1 => cases member
  | case2 only =>
    rw [List.mem_singleton.mp member]
    exact Nat.le_refl _
  | case3 first items more ih =>
    rw [separated]
    · simp only [List.length_cons, List.length_append]
      rcases List.mem_cons.mp member with rfl | later
      · omega
      · have := ih later
        omega
    · exact more

theorem nextInList_close (first : Bool) (rest : List UInt8) :
    nextInList first (Byte.closeList :: rest) = .ok (.close rest) := by
  rw [nextInList, skipBlank_cons (by decide)]
  rfl

variable {α : Type} {read : List UInt8 → Reading α} {value : α} {text : List UInt8}

theorem Written.nextInList_first (written : Written read value text) (rest : List UInt8) :
    nextInList true (text ++ rest) = .ok (.item (text ++ rest)) := by
  obtain ⟨b, more, rfl, solid, notClosing⟩ := written.begins
  rw [List.cons_append, nextInList, skipBlank_cons solid]
  simp only [if_neg notClosing, if_true]

theorem Written.nextInList_later (written : Written read value text) (rest : List UInt8) :
    nextInList false (Byte.comma :: (text ++ rest)) = .ok (.item (text ++ rest)) := by
  obtain ⟨b, more, rfl, solid, notClosing⟩ := written.begins
  rw [List.cons_append, nextInList, skipBlank_cons (by decide)]
  simp only [skipBlank_cons solid, if_neg notClosing]
  rfl

variable {β : Type} {item : List UInt8 → Reading β} {print : β → List UInt8}

/-- The items of a list after its first one, each behind its comma. -/
def tail (print : β → List UInt8) (items : List β) : List UInt8 :=
  items.flatMap fun a => Byte.comma :: print a

/-- Behind an item comes a comma or the bracket that closes the list. -/
theorem endsValue_tail (print : β → List UInt8) (items : List β) (rest : List UInt8) :
    EndsValue (tail print items ++ Byte.closeList :: rest) := by
  cases items with
  | nil => exact ⟨_, _, rfl, .inr (.inl rfl)⟩
  | cons a items => exact ⟨_, _, rfl, .inl rfl⟩

theorem printList_eq_cons (print : β → List UInt8) (a : β) (items : List β) (rest : List UInt8) :
    printList ((a :: items).map print) ++ rest =
      Byte.openList :: (print a ++ (tail print items ++ Byte.closeList :: rest)) := by
  simp only [printList, List.map_cons, separated_cons, tail, List.flatMap_map, List.append_assoc,
    List.cons_append, List.nil_append]

theorem expectList_openList (wanted : Wanted) (rest : List UInt8) :
    expectList wanted (Byte.openList :: rest) = .ok rest := by
  rw [expectList, skipBlank_cons (by decide)]
  rfl

theorem gatherItems_tail {items : List β} (written : ∀ a ∈ items, Written item a (print a))
    {fuel : Nat} (enough : items.length < fuel) (gathered : List β) (rest : List UInt8) :
    gatherItems item fuel false gathered (tail print items ++ Byte.closeList :: rest) =
      .ok (gathered.reverse ++ items, rest) := by
  induction items generalizing fuel gathered with
  | nil =>
    obtain ⟨fuel, rfl⟩ := Nat.exists_eq_add_one_of_ne_zero (Nat.ne_of_gt enough)
    simp only [tail, List.flatMap_nil, List.nil_append, gatherItems, nextInList_close,
      List.append_nil]
  | cons a items ih =>
    obtain ⟨fuel, rfl⟩ := Nat.exists_eq_add_one_of_ne_zero (Nat.ne_zero_of_lt enough)
    have own := written a List.mem_cons_self
    have later := ih (fun b member => written b (List.mem_cons_of_mem a member))
      (Nat.lt_of_succ_lt_succ enough) (a :: gathered)
    have begins := own.nextInList_later (tail print items ++ Byte.closeList :: rest)
    have reads := own.reads _ (endsValue_tail print items rest)
    simp only [tail, List.flatMap_cons, List.cons_append, List.append_assoc] at begins reads later ⊢
    simp only [gatherItems, begins, reads, later, List.reverse_cons, List.append_assoc,
      List.cons_append, List.nil_append]

/-- A written list is read up to its closing bracket, whatever comes behind it. -/
theorem readList_written {items : List β} (written : ∀ a ∈ items, Written item a (print a))
    {fuel : Nat} (enough : items.length ≤ fuel) (rest : List UInt8) :
    readList fuel item (printList (items.map print) ++ rest) = .ok (items, rest) := by
  cases items with
  | nil =>
    simp only [List.map_nil, printList, separated, List.cons_append, List.nil_append, readList,
      expectList_openList, gatherItems, nextInList_close, List.reverse_nil]
  | cons a items =>
    have own := written a List.mem_cons_self
    have later := gatherItems_tail (fun b member => written b (List.mem_cons_of_mem a member))
      enough [a] rest
    have begins := own.nextInList_first (tail print items ++ Byte.closeList :: rest)
    have reads := own.reads _ (endsValue_tail print items rest)
    rw [printList_eq_cons]
    simp only [readList, expectList_openList, gatherItems, begins, reads, later]
    rfl

theorem readItems_tail (wanted : Wanted) {items : List β}
    (written : ∀ a ∈ items, Written item a (print a)) (before : Nat) (rest : List UInt8) :
    readItems item wanted (before + 1) items.length
        (tail print items ++ Byte.closeList :: rest) = .ok (items, rest) := by
  induction items generalizing before with
  | nil =>
    simp only [tail, List.flatMap_nil, List.nil_append, List.length_nil, readItems, closeFullList,
      skipBlank_cons (show Byte.isBlank Byte.closeList = false by decide), if_true]
    rfl
  | cons a items ih =>
    have own := written a List.mem_cons_self
    have later := ih (fun b member => written b (List.mem_cons_of_mem a member)) (before + 1)
    have begins := own.nextInList_later (tail print items ++ Byte.closeList :: rest)
    have reads := own.reads _ (endsValue_tail print items rest)
    simp only [tail, List.flatMap_cons, List.cons_append, List.append_assoc] at begins reads later ⊢
    simp only [List.length_cons, readItems, Nat.succ_ne_zero, decide_false, begins, reads, later]
    rfl

theorem readItems_written (wanted : Wanted) {a : β} {items : List β}
    (written : ∀ b ∈ a :: items, Written item b (print b)) (rest : List UInt8) :
    readItems item wanted 0 (a :: items).length
        (print a ++ (tail print items ++ Byte.closeList :: rest)) = .ok (a :: items, rest) := by
  have own := written a List.mem_cons_self
  have later := readItems_tail wanted
    (fun b member => written b (List.mem_cons_of_mem a member)) 0 rest
  have begins := own.nextInList_first (tail print items ++ Byte.closeList :: rest)
  have reads := own.reads _ (endsValue_tail print items rest)
  rw [Nat.zero_add] at later
  simp only [List.length_cons, readItems, decide_true, begins, reads, later]
  rfl

theorem readSixteen_of_readItems {values : Vector β 16} {s inside rest : List UInt8}
    (opened : expectList .sixteen s = .ok inside)
    (found : readItems item .sixteen 0 16 inside = .ok (values.toList, rest)) :
    readSixteen item s = .ok (values, rest) := by
  unfold readSixteen
  simp only [opened]
  split
  · rename_i refused
    rw [found] at refused
    cases refused
  · rename_i given
    rw [found] at given
    cases given
    rfl

/-- A written list of sixteen items is read up to its closing bracket, whatever comes behind it. -/
theorem readSixteen_written {values : Vector β 16}
    (written : ∀ a ∈ values.toList, Written item a (print a)) (rest : List UInt8) :
    readSixteen item (printList (values.toList.map print) ++ rest) = .ok (values, rest) := by
  obtain ⟨a, items, listed⟩ := List.exists_cons_of_length_pos (l := values.toList) (by simp)
  have count : (a :: items).length = 16 := by rw [← listed, Vector.length_toList]
  rw [listed] at written
  have found := readItems_written .sixteen written rest
  rw [count, ← listed] at found
  rw [listed, printList_eq_cons]
  exact readSixteen_of_readItems (expectList_openList _ _) found

end Chip8.Json

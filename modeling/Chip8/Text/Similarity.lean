/-!
# Similar words

The Jaro similarity of two words, for guessing which word was meant: how many letters they share
at nearby places, less the letters that are out of order. Similarities are doubles, so that the
rounding of their parts decides how close a case on the border comes.
-/

namespace Chip8.Text

/-- Pairs each letter of the first word with the first unused equal letter of the second whose place
differs by at most `reach`. Gives the places used in the second word, in the order of the letters of
the first. -/
def matchLetters (reach : Nat) (target : List (Char × Nat)) :
    List (Char × Nat) → (used : List Nat) → List Nat
  | [], used => used
  | (c, i) :: letters, used =>
    let found := target.find? fun (d, j) =>
      c = d && i ≤ j + reach && j ≤ i + reach && !used.contains j
    match found with
    | some (_, j) => matchLetters reach target letters (used ++ [j])
    | none => matchLetters reach target letters used

/-- One number as a share of another. -/
def share (part whole : Nat) : Float := Float.ofNat part / Float.ofNat whole

/-- The mean of the shares of common letters in the two words and of the share of them that is in
order. -/
def similarity (a b : String) : Float :=
  let a := a.toList
  let b := b.toList
  let reach := max a.length b.length / 2 - 1
  let used := matchLetters reach b.zipIdx a.zipIdx []
  let common := used.length
  if common = 0 then 0
  else
    let inFirst := used.map fun j => b[j]?
    let inSecond := (used.mergeSort (· ≤ ·)).map fun j => b[j]?
    let outOfOrder := ((inFirst.zip inSecond).filter fun (x, y) => x ≠ y).length / 2
    (share common a.length + share common b.length + share (common - outOfOrder) common) / 3

/-- The word most similar to the given one, if any is similar by more than seven tenths. Of equally
similar words the last one is chosen. -/
def mostSimilar (word : String) (words : List String) : Option String :=
  let scored := words.map fun w => (similarity word w, w)
  let close := scored.filter fun (s, _) => 0.7 < s
  (close.foldl
    (fun best (s, w) =>
      match best with
      | some (t, v) => if s < t then some (t, v) else some (s, w)
      | none => some (s, w)) none).map Prod.snd

end Chip8.Text

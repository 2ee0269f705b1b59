import Chip8.Json.Input

/-!
# JSON strings

A string is read up to its closing quote and must be well-formed UTF-8 once its escapes are
undone. Characters beyond the first plane are escaped as two halves, which have to come in order.
-/

namespace Chip8.Json

def hexValue? (b : UInt8) : Option Nat :=
  if 0x30 ≤ b ∧ b ≤ 0x39 then some (b.toNat - 0x30)
  else if 0x41 ≤ b ∧ b ≤ 0x46 then some (b.toNat - 0x41 + 10)
  else if 0x61 ≤ b ∧ b ≤ 0x66 then some (b.toNat - 0x61 + 10)
  else none

/-- The four hexadecimal digits at the front. -/
def readFourHex : List UInt8 → Reading Nat
  | a :: b :: c :: d :: rest =>
    match hexValue? a, hexValue? b, hexValue? c, hexValue? d with
    | some a, some b, some c, some d => .ok (((a * 16 + b) * 16 + c) * 16 + d, rest)
    | _, _, _, _ => .error .invalidEscape
  | _ => .error .endOfString

/-- What the letter after a backslash stands for, if it is not a code point. -/
def simpleEscape? (b : UInt8) : Option UInt8 :=
  [(Byte.quote, Byte.quote), (Byte.backslash, Byte.backslash), (0x2F, 0x2F), (0x62, 0x08),
   (0x66, 0x0C), (0x6E, 0x0A), (0x72, 0x0D), (0x74, 0x09)].lookup b

/-- The lower half of a code point whose upper half was just read. -/
def readLowerHalf : List UInt8 → Reading Nat
  | [] => .error .endOfString
  | b :: s =>
    if b ≠ Byte.backslash then .error .unfinishedSurrogatePair
    else
      match s with
      | [] => .error .endOfString
      | u :: s =>
        if u ≠ 0x75 then .error .unfinishedSurrogatePair
        else
          match readFourHex s with
          | .error e => .error e
          | .ok (low, rest) =>
            if 0xDC00 ≤ low ∧ low ≤ 0xDFFF then .ok (low, rest) else .error .loneSurrogate

/-- The code point of an escape, after its `u`. -/
def readCodePoint (s : List UInt8) : Reading Nat :=
  match readFourHex s with
  | .error e => .error e
  | .ok (n, rest) =>
    if 0xDC00 ≤ n ∧ n ≤ 0xDFFF then .error .loneSurrogate
    else if 0xD800 ≤ n ∧ n ≤ 0xDBFF then
      (readLowerHalf rest).map fun (low, rest) =>
        (0x10000 + (n - 0xD800) * 0x400 + (low - 0xDC00), rest)
    else .ok (n, rest)

/-- What an escape stands for, after its backslash, in UTF-8. -/
def readEscape : List UInt8 → Reading (List UInt8)
  | [] => .error .endOfString
  | b :: s =>
    match simpleEscape? b with
    | some c => .ok ([c], s)
    | none =>
      if b = 0x75 then
        (readCodePoint s).map fun (n, rest) => (ascii (String.singleton (Char.ofNat n)), rest)
      else .error .invalidEscape

theorem length_of_readFourHex {s rest : List UInt8} {n : Nat}
    (h : readFourHex s = .ok (n, rest)) : rest.length < s.length := by
  unfold readFourHex at h
  split at h
  · split at h
    · simp only [Except.ok.injEq, Prod.mk.injEq] at h
      rw [← h.2]
      simp only [List.length_cons]
      omega
    · cases h
  · cases h

theorem length_of_readLowerHalf {s rest : List UInt8} {n : Nat}
    (h : readLowerHalf s = .ok (n, rest)) : rest.length < s.length := by
  unfold readLowerHalf at h
  repeat' split at h
  all_goals cases h
  rename_i hex
  have := length_of_readFourHex hex
  simp only [List.length_cons]
  omega

theorem length_of_readCodePoint {s rest : List UInt8} {n : Nat}
    (h : readCodePoint s = .ok (n, rest)) : rest.length < s.length := by
  unfold readCodePoint at h
  split at h
  · cases h
  · rename_i hex
    have hlt := length_of_readFourHex hex
    repeat' split at h
    · cases h
    · obtain ⟨⟨low, after⟩, hl, hr⟩ := exists_of_map_eq_ok h
      obtain rfl : after = rest := congrArg Prod.snd hr
      have := length_of_readLowerHalf hl
      omega
    · cases h
      exact hlt

/-- An escape takes at least the letter after its backslash. -/
theorem length_of_readEscape {s rest bytes : List UInt8}
    (h : readEscape s = .ok (bytes, rest)) : rest.length < s.length := by
  unfold readEscape at h
  repeat' split at h
  · cases h
  · cases h
    simp
  · obtain ⟨⟨n, after⟩, hc, hr⟩ := exists_of_map_eq_ok h
    cases hr
    have := length_of_readCodePoint hc
    simp only [List.length_cons]
    omega
  · cases h

/-- The bytes up to the closing quote, after those already gathered, last one first. -/
def gatherString (gathered : List UInt8) (s : List UInt8) : Reading (List UInt8) :=
  match s with
  | [] => .error .endOfString
  | b :: s =>
    if b = Byte.quote then .ok (gathered.reverse, s)
    else if b = Byte.backslash then
      match _h : readEscape s with
      | .error e => .error e
      | .ok (bytes, rest) => gatherString (bytes.reverse ++ gathered) rest
    else if b < 0x20 then .error .controlCharacter
    else gatherString (b :: gathered) s
  termination_by s.length
  decreasing_by
    · have := length_of_readEscape _h
      simp only [List.length_cons]
      omega
    · simp

/-- Reads a string after its opening quote. -/
def readString (s : List UInt8) : Reading String :=
  match gatherString [] s with
  | .error e => .error e
  | .ok (bytes, rest) =>
    match String.fromUTF8? (ByteArray.mk bytes.toArray) with
    | some text => .ok (text, rest)
    | none => .error .invalidCodePoint

end Chip8.Json

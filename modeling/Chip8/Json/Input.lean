import Chip8.Json.Error

/-!
# Places in a JSON text

Texts are lists of bytes. This module knows blanks, the bytes that structure a text, and what may
stand between two values: the separators of lists and objects.
-/

namespace Chip8.Json

namespace Byte

def quote : UInt8 := 0x22
def plus : UInt8 := 0x2B
def comma : UInt8 := 0x2C
def minus : UInt8 := 0x2D
def colon : UInt8 := 0x3A
def openList : UInt8 := 0x5B
def backslash : UInt8 := 0x5C
def closeList : UInt8 := 0x5D
def openObject : UInt8 := 0x7B
def closeObject : UInt8 := 0x7D

def isBlank (b : UInt8) : Bool := b == 0x20 || b == 0x0A || b == 0x09 || b == 0x0D

def isDigit (b : UInt8) : Bool := 0x30 ≤ b && b ≤ 0x39

/-- The byte of a decimal digit. -/
def digit (d : Nat) : UInt8 := UInt8.ofNat (0x30 + d)

end Byte

/-- The bytes of a word in plain ASCII. -/
def ascii (s : String) : List UInt8 := s.toUTF8.data.toList

def skipBlank (s : List UInt8) : List UInt8 := s.dropWhile Byte.isBlank

/-- Requires the given letters next. -/
def expectLetters : (letters : List UInt8) → List UInt8 → Except Error (List UInt8)
  | [], s => .ok s
  | _ :: _, [] => .error .endOfValue
  | l :: letters, b :: s => if b = l then expectLetters letters s else .error .expectedIdent

/-- What comes next in a list or an object. -/
inductive Next
  /-- Another item, which begins here. -/
  | item (s : List UInt8)
  /-- The end, and the text after it. -/
  | close (rest : List UInt8)
  deriving DecidableEq, Repr

/-- What comes next in a list: the closing bracket, or an item, after a comma unless it is the
`first`. -/
def nextInList (first : Bool) (s : List UInt8) : Except Error Next :=
  match skipBlank s with
  | [] => .error .endOfList
  | b :: rest =>
    if b = Byte.closeList then .ok (.close rest)
    else if first then .ok (.item (b :: rest))
    else if b = Byte.comma then
      match skipBlank rest with
      | [] => .error .endOfValue
      | c :: after =>
        if c = Byte.closeList then .error .trailingComma else .ok (.item (c :: after))
    else .error .expectedListSeparator

/-- What comes next in an object: the closing brace, or a member, after a comma unless it is the
`first`. A member begins after the opening quote of its key. -/
def nextInObject (first : Bool) (s : List UInt8) : Except Error Next :=
  match skipBlank s with
  | [] => .error .endOfObject
  | b :: rest =>
    if b = Byte.closeObject then .ok (.close rest)
    else if first then
      if b = Byte.quote then .ok (.item rest) else .error .keyNotString
    else if b = Byte.comma then
      match skipBlank rest with
      | [] => .error .endOfValue
      | c :: after =>
        if c = Byte.quote then .ok (.item after)
        else if c = Byte.closeObject then .error .trailingComma
        else .error .keyNotString
    else .error .expectedObjectSeparator

/-- The closing bracket of a list that has all its elements. -/
def closeFullList (s : List UInt8) : Except Error (List UInt8) :=
  match skipBlank s with
  | [] => .error .endOfList
  | b :: rest =>
    if b = Byte.closeList then .ok rest
    else if b = Byte.comma then
      match skipBlank rest with
      | c :: _ => if c = Byte.closeList then .error .trailingComma else .error .trailingCharacters
      | [] => .error .trailingCharacters
    else .error .trailingCharacters

/-- The colon between a key and its value. -/
def expectColon (s : List UInt8) : Except Error (List UInt8) :=
  match skipBlank s with
  | [] => .error .endOfObject
  | b :: rest => if b = Byte.colon then .ok rest else .error .expectedColon

/-- Only blanks may follow the value of a whole text. -/
def expectEnd (s : List UInt8) : Except Error Unit :=
  match skipBlank s with
  | [] => .ok ()
  | _ :: _ => .error .trailingCharacters

end Chip8.Json

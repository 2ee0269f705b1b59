import Chip8.Json.Input

/-!
# Writing JSON

Values are written without blanks: numbers in decimal, lists in brackets and objects in braces,
with commas between the items.
-/

namespace Chip8.Json

/-- The decimal digits of a number. -/
def printNatural (n : Nat) : List UInt8 :=
  if n < 10 then [Byte.digit n]
  else printNatural (n / 10) ++ [Byte.digit (n % 10)]

def printFlag (b : Bool) : List UInt8 := if b then ascii "true" else ascii "false"

/-- Items with commas between them. -/
def separated : List (List UInt8) → List UInt8
  | [] => []
  | [item] => item
  | item :: items => item ++ Byte.comma :: separated items

def printList (items : List (List UInt8)) : List UInt8 :=
  Byte.openList :: separated items ++ [Byte.closeList]

/-- A member of an object. The name holds nothing that would need an escape. -/
def printMember (name : String) (value : List UInt8) : List UInt8 :=
  Byte.quote :: ascii name ++ Byte.quote :: Byte.colon :: value

def printObject (members : List (List UInt8)) : List UInt8 :=
  Byte.openObject :: separated members ++ [Byte.closeObject]

/-- A text all of whose bytes are ASCII, as characters. -/
def asciiText (s : List UInt8) : String := String.ofList (s.map fun b => Char.ofNat b.toNat)

end Chip8.Json

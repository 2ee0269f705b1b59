import Chip8.Decimal.Shortest
import Chip8.Text.Quoted

/-!
# Reading errors

What can be wrong with a JSON text, or with the values in it. The first problem met in text order
is the one that is reported.
-/

namespace Chip8.Json

/-- A value of a kind that was not wanted. -/
inductive Found
  | null
  | boolean (b : Bool)
  | integer (n : Int)
  /-- A double, by its bits. -/
  | real (bits : UInt64)
  | string (s : String)
  | sequence
  | map
  /-- A variant's name without a payload. -/
  | bareVariant
  deriving DecidableEq, Repr

/-- Doubles show the fewest digits that read back, from `1e-5` to below `1e16` without an
exponent. -/
def realLayout : Decimal.Layout where
  least := -5
  greatest := 15

def Found.text : Found → String
  | null => "null"
  | boolean b => "boolean `" ++ (if b then "true" else "false") ++ "`"
  | integer n => "integer `" ++ toString n ++ "`"
  | real bits => "floating point `" ++ realLayout.text bits ++ "`"
  | string s => "string " ++ Text.quoted s
  | sequence => "sequence"
  | map => "map"
  | bareVariant => "unit variant"

/-- The kind of value that a place calls for. -/
inductive Wanted
  | byte
  | word
  | flag
  | sequence
  | sixteen
  | snapshot
  | payload
  deriving DecidableEq, Repr

def Wanted.text : Wanted → String
  | byte => "u8"
  | word => "u16"
  | flag => "a boolean"
  | sequence => "a sequence"
  | sixteen => "an array of length 16"
  | snapshot => "struct MachineState"
  | payload => "newtype variant"

/-- The kind of value together with the number of elements that its list form has. -/
def Wanted.listText : Wanted → String
  | snapshot => "struct MachineState with 13 elements"
  | wanted => wanted.text

/-- The three groups of errors: the text ends too early, it is no JSON text, or it is JSON that does
not describe the wanted value. -/
inductive Category
  | ended
  | malformed
  | mismatched
  deriving DecidableEq, Repr

inductive Error
  | endOfValue
  | endOfList
  | endOfObject
  | endOfString
  | expectedValue
  | expectedIdent
  | expectedColon
  | expectedListSeparator
  | expectedObjectSeparator
  | invalidNumber
  | numberOutOfRange
  | trailingCharacters
  | trailingComma
  | keyNotString
  | invalidEscape
  | unfinishedSurrogatePair
  | loneSurrogate
  | controlCharacter
  | invalidCodePoint
  | missingField (name : String)
  | duplicateField (name : String)
  | invalidType (found : Found) (wanted : Wanted)
  | integerOutOfRange (n : Int) (wanted : Wanted)
  | invalidLength (count : Nat) (wanted : Wanted)
  | unknownVariant (name : String) (known : List String)
  deriving DecidableEq, Repr

namespace Error

def category : Error → Category
  | endOfValue | endOfList | endOfObject | endOfString => .ended
  | missingField _ | duplicateField _ | invalidType .. | integerOutOfRange .. | invalidLength ..
  | unknownVariant .. => .mismatched
  | _ => .malformed

def text : Error → String
  | endOfValue => "EOF while parsing a value"
  | endOfList => "EOF while parsing a list"
  | endOfObject => "EOF while parsing an object"
  | endOfString => "EOF while parsing a string"
  | expectedValue => "expected value"
  | expectedIdent => "expected ident"
  | expectedColon => "expected `:`"
  | expectedListSeparator => "expected `,` or `]`"
  | expectedObjectSeparator => "expected `,` or `\x7d`"
  | invalidNumber => "invalid number"
  | numberOutOfRange => "number out of range"
  | trailingCharacters => "trailing characters"
  | trailingComma => "trailing comma"
  | keyNotString => "key must be a string"
  | invalidEscape => "invalid escape"
  | unfinishedSurrogatePair => "unexpected end of hex escape"
  | loneSurrogate => "lone leading surrogate in hex escape"
  | controlCharacter => "control character (\\u0000-\\u001F) found while parsing a string"
  | invalidCodePoint => "invalid unicode code point"
  | missingField name => "missing field `" ++ name ++ "`"
  | duplicateField name => "duplicate field `" ++ name ++ "`"
  | invalidType found wanted => "invalid type: " ++ found.text ++ ", expected " ++ wanted.text
  | integerOutOfRange n wanted =>
    "invalid value: " ++ (Found.integer n).text ++ ", expected " ++ wanted.text
  | invalidLength count wanted =>
    "invalid length " ++ count.repr ++ ", expected " ++ wanted.listText
  | unknownVariant name known =>
    "unknown variant `" ++ name ++ "`, expected "
      ++ " or ".intercalate (known.map fun k => "`" ++ k ++ "`")

end Error

/-- The outcome of reading a value from the front of a text: the value and the text after it. -/
abbrev Reading (α : Type) := Except Error (α × List UInt8)

theorem exists_of_map_eq_ok {ε α β : Type} {x : Except ε α} {f : α → β} {b : β}
    (h : x.map f = .ok b) : ∃ a, x = .ok a ∧ f a = b := by
  cases x with
  | error e => cases h
  | ok a => exact ⟨a, rfl, Except.ok.inj h⟩

end Chip8.Json

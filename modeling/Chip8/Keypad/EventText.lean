import Chip8.Json.Value
import Chip8.Keypad

/-!
# Key events as text

A key event is written as an object with one member: what happened, and the key.
-/

namespace Chip8.KeyEvent

/-- The kinds of events by name. -/
def variants : List (String × (UInt8 → KeyEvent)) :=
  [("Pressed", pressed), ("Released", released)]

/-- The name of the event's kind. -/
def variantName : KeyEvent → String
  | pressed _ => "Pressed"
  | released _ => "Released"

/-- How an event is shown in the log. -/
def text (e : KeyEvent) : String := e.variantName ++ "(" ++ e.key.toNat.repr ++ ")"

/-- Reads the name of a kind after its opening quote. -/
def readVariant (s : List UInt8) :
    Except Json.Error ((UInt8 → KeyEvent) × List UInt8) := do
  let (name, s) ← Json.readString s
  match variants.lookup name with
  | some make => return (make, s)
  | none => throw (.unknownVariant name (variants.map Prod.fst))

/-- Reads the member of an event's object, after the opening brace, and the closing brace. -/
def readMember (s : List UInt8) : Except Json.Error (KeyEvent × List UInt8) := do
  match Json.skipBlank s with
  | [] => throw .endOfObject
  | b :: s =>
    if b = Json.Byte.closeObject then throw .expectedValue
    if b ≠ Json.Byte.quote then throw .keyNotString
    let (make, s) ← readVariant s
    let s ← Json.expectColon s
    let (key, s) ← Json.readByte s
    match Json.skipBlank s with
    | [] => throw .endOfObject
    | b :: rest =>
      if b = Json.Byte.closeObject then return (make key, rest) else throw .expectedValue

/-- Reads an event. A kind that stands alone lacks its key. -/
def read (s : List UInt8) : Except Json.Error KeyEvent := do
  match Json.skipBlank s with
  | [] => throw .endOfValue
  | b :: s =>
    if b = Json.Byte.openObject then
      let (event, rest) ← readMember s
      Json.expectEnd rest
      return event
    else if b = Json.Byte.quote then
      let _ ← readVariant s
      throw (.invalidType .bareVariant .payload)
    else throw .expectedValue

end Chip8.KeyEvent

import Chip8.Json.Skip
import Chip8.Json.Value
import Chip8.Trace

/-!
# Reading traces

A trace file is a list of snapshots. A snapshot is an object, whose members come in any order and
may include names that are no fields, or the plain list of its field values in order. Lists and
members are counted down from the length of the text, which no text can exceed.
-/

namespace Chip8

def Scalar.read : (s : Scalar) → List UInt8 → Json.Reading s.Value
  | byte => Json.readByte
  | word => Json.readWord
  | flag => Json.readFlag

def Shape.read (fuel : Nat) : (s : Shape) → List UInt8 → Json.Reading s.Value
  | one s => s.read
  | sixteen s => Json.readSixteen s.read
  | bytes => fun s => (Json.readList fuel Json.readByte s).map fun (l, rest) => (l.toArray, rest)

namespace Snapshot

def Field.ofName? (name : String) : Option Field := Field.all.find? fun f => f.name = name

/-- The field values read so far. -/
abbrev Partial := (f : Field) → Option f.shape.Value

namespace Partial

def empty : Partial := fun _ => none

def insert (p : Partial) (f : Field) (v : f.shape.Value) : Partial := fun g =>
  if h : f = g then some (h ▸ v) else p g

/-- The snapshot, if every field has been read; else the first one that is missing. -/
def complete (p : Partial) : Except Json.Error Snapshot :=
  match h : Field.all.find? fun f => (p f).isNone with
  | some f => .error (.missingField f.name)
  | none => .ok (ofFields fun f => (p f).get (by
      have := List.find?_eq_none.1 h f (Field.mem_all f)
      simpa [Option.isSome_iff_ne_none] using this))

end Partial

/-- The members of an object up to its closing brace, on top of those already read. `fuel` bounds
their number, `size` the length of the text. -/
def readMembers (size : Nat) : (fuel : Nat) → (first : Bool) → Partial → List UInt8 →
    Except Json.Error (Partial × List UInt8)
  | 0, _, _, _ => .error .endOfObject
  | fuel + 1, first, p, s => do
    match ← Json.nextInObject first s with
    | .close rest => return (p, rest)
    | .item s =>
      let (name, s) ← Json.readString s
      match Field.ofName? name with
      | none =>
        let s ← Json.expectColon s
        let s ← Json.skipValue size s
        readMembers size fuel false p s
      | some f =>
        if (p f).isSome then throw (.duplicateField f.name)
        let s ← Json.expectColon s
        let (v, s) ← f.shape.read size s
        readMembers size fuel false (p.insert f v) s

/-- The values of the given fields in a list of all of them, on top of those already read. -/
def readInOrder (size : Nat) : (fields : List Field) → (before : Nat) → Partial →
    List UInt8 → Except Json.Error (Partial × List UInt8)
  | [], _, p, s => do
    let rest ← Json.closeFullList s
    return (p, rest)
  | f :: fields, before, p, s => do
    match ← Json.nextInList (before = 0) s with
    | .close _ => throw (.invalidLength before .snapshot)
    | .item s =>
      let (v, s) ← f.shape.read size s
      readInOrder size fields (before + 1) (p.insert f v) s

/-- Reads a snapshot. -/
def read (size : Nat) (s : List UInt8) : Except Json.Error (Snapshot × List UInt8) :=
  match Json.skipBlank s with
  | [] => .error .endOfValue
  | b :: rest => do
    if b = Json.Byte.openObject then
      let (p, rest) ← readMembers size (size + 1) true .empty rest
      return (← p.complete, rest)
    else if b = Json.Byte.openList then
      let (p, rest) ← readInOrder size Field.all 0 .empty rest
      return (← p.complete, rest)
    else throw (Json.mismatch .snapshot (b :: rest))

end Snapshot

/-- Reads the whole text of a trace. -/
def Trace.read (s : List UInt8) : Except Json.Error Trace := do
  let (t, rest) ← Json.readList s.length (Snapshot.read s.length) s
  Json.expectEnd rest
  return t

end Chip8

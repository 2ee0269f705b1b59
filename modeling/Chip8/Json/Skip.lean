import Chip8.Json.Text

/-!
# Skipping values

A value that nobody asked for is passed over. Its brackets, separators and spelling are checked,
but not the range of its numbers, the pairing of its escaped halves or its encoding, and it may
nest as deeply as it likes: the brackets that are open are kept in a list.
-/

namespace Chip8.Json

inductive Bracket
  | list
  | object
  deriving DecidableEq, Repr

namespace Bracket

def closing : Bracket → UInt8
  | list => Byte.closeList
  | object => Byte.closeObject

def endError : Bracket → Error
  | list => .endOfList
  | object => .endOfObject

def separatorError : Bracket → Error
  | list => .expectedListSeparator
  | object => .expectedObjectSeparator

end Bracket

/-- Passes over one or more digits. -/
def skipDigits (s : List UInt8) : Except Error (List UInt8) :=
  match s with
  | b :: rest => if Byte.isDigit b then .ok (rest.dropWhile Byte.isDigit) else .error .invalidNumber
  | [] => .error .invalidNumber

/-- Passes over the exponent of a number, if it has one. -/
def skipExponent (s : List UInt8) : Except Error (List UInt8) :=
  match s with
  | b :: rest =>
    if b = 0x65 ∨ b = 0x45 then
      match rest with
      | sign :: digits =>
        if sign = Byte.plus ∨ sign = Byte.minus then skipDigits digits else skipDigits rest
      | [] => skipDigits rest
    else .ok s
  | [] => .ok s

/-- Passes over a number after its sign. However it is broken, it is an invalid number. -/
def skipUnsigned (s : List UInt8) : Except Error (List UInt8) :=
  match s with
  | [] => .error .invalidNumber
  | d :: more =>
    if ¬ Byte.isDigit d then .error .invalidNumber
    else
      let rest := more.dropWhile Byte.isDigit
      if d = 0x30 ∧ rest.length < more.length then .error .invalidNumber
      else
        match rest with
        | b :: after =>
          if b = 0x2E then
            match skipDigits after with
            | .error e => .error e
            | .ok rest => skipExponent rest
          else skipExponent rest
        | [] => .ok rest

/-- Passes over a string after its opening quote. -/
def skipString (s : List UInt8) : Except Error (List UInt8) :=
  match s with
  | [] => .error .endOfString
  | b :: s =>
    if b = Byte.quote then .ok s
    else if b = Byte.backslash then
      match s with
      | [] => .error .endOfString
      | e :: s =>
        if (simpleEscape? e).isSome then skipString s
        else if e = 0x75 then
          match _h : readFourHex s with
          | .error err => .error err
          | .ok (_, rest) => skipString rest
        else .error .invalidEscape
    else if b < 0x20 then .error .controlCharacter
    else skipString s
  termination_by s.length
  decreasing_by
    · simp only [List.length_cons]
      omega
    · have := length_of_readFourHex _h
      simp only [List.length_cons]
      omega
    · simp

/-- What may come next while a value is passed over. -/
inductive Pending
  /-- A value. -/
  | value
  /-- The first item of the bracket just opened, or its end. -/
  | firstItem
  /-- A comma and a further item, or the end of the innermost bracket. -/
  | moreItems
  deriving DecidableEq, Repr

/-- Passes over the key of a member and its colon, in an object. -/
def skipKey (bracket : Bracket) (s : List UInt8) : Except Error (List UInt8) :=
  match bracket with
  | .list => .ok s
  | .object =>
    match skipBlank s with
    | [] => .error .endOfObject
    | b :: rest =>
      if b = Byte.quote then
        match skipString rest with
        | .error e => .error e
        | .ok rest => expectColon rest
      else .error .keyNotString

/-- One step: passes over the opening of a bracket, a whole plain value, a separator with the key
after it, or a closing bracket. Open brackets are listed from the innermost outwards. -/
def skipStep (pending : Pending) (brackets : List Bracket) (s : List UInt8) :
    Except Error (Pending × List Bracket × List UInt8) :=
  match pending, brackets with
  | .value, _ =>
    match skipBlank s with
    | [] => .error .endOfValue
    | b :: rest =>
      let done (r : Except Error (List UInt8)) :=
        r.map fun rest => (Pending.moreItems, brackets, rest)
      if b = Byte.openList then .ok (.firstItem, .list :: brackets, rest)
      else if b = Byte.openObject then .ok (.firstItem, .object :: brackets, rest)
      else if b = Byte.quote then done (skipString rest)
      else if b = Byte.minus then done (skipUnsigned rest)
      else if Byte.isDigit b then done (skipUnsigned (b :: rest))
      else if b = 0x6E then done (expectLetters (ascii "ull") rest)
      else if b = 0x74 then done (expectLetters (ascii "rue") rest)
      else if b = 0x66 then done (expectLetters (ascii "alse") rest)
      else .error .expectedValue
  | _, [] => .ok (pending, [], s)
  | .firstItem, bracket :: outer =>
    match skipBlank s with
    | [] => .error bracket.endError
    | b :: rest =>
      if b = bracket.closing then .ok (.moreItems, outer, rest)
      else (skipKey bracket (b :: rest)).map fun rest => (.value, brackets, rest)
  | .moreItems, bracket :: outer =>
    match skipBlank s with
    | [] => .error bracket.endError
    | b :: rest =>
      if b = bracket.closing then .ok (.moreItems, outer, rest)
      else if b = Byte.comma then
        (skipKey bracket rest).map fun rest => (.value, brackets, rest)
      else .error bracket.separatorError

/-- Steps until no bracket is open and no value is due. -/
def skipFrom : (fuel : Nat) → Pending → List Bracket → List UInt8 →
    Except Error (List UInt8)
  | 0, _, _, _ => .error .endOfValue
  | fuel + 1, pending, brackets, s =>
    match skipStep pending brackets s with
    | .error e => .error e
    | .ok (.moreItems, [], rest) => .ok rest
    | .ok (pending, brackets, rest) => skipFrom fuel pending brackets rest

/-- Passes over a value. `fuel` is at least the length of the text; a step passes over at least one
byte, or goes from an opened bracket to its first item, so twice as many steps are enough. -/
def skipValue (fuel : Nat) (s : List UInt8) : Except Error (List UInt8) :=
  skipFrom (2 * fuel + 2) .value [] s

end Chip8.Json

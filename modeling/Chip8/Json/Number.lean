import Chip8.Json.Input

/-!
# JSON numbers

Whole numbers of 64 bits, signed or not, are exact; any other number is a double. A double is
computed from the leading digits that fit 64 bits and one multiplication or division by a power of
ten, so its last bit can differ from that of the nearest double.
-/

namespace Chip8.Json

inductive Number
  | integer (n : Int)
  /-- A double, by its bits. -/
  | real (bits : UInt64)
  deriving DecidableEq, Repr

def Number.found : Number → Found
  | integer n => .integer n
  | real bits => .real bits

def digitValue (b : UInt8) : Nat := b.toNat - 0x30

/-- Appends decimal digits to `n` while the result stays below `limit`: the number reached, and the
digits that did not fit. -/
def appendDigits (limit : Nat) (n : Nat) : List UInt8 → Nat × List UInt8
  | [] => (n, [])
  | d :: ds =>
    let longer := n * 10 + digitValue d
    if longer < limit then appendDigits limit longer ds else (n, d :: ds)

/-- `x · 10 ^ n` or `x / 10 ^ n` for powers that are doubles. -/
def powerOfTen (n : Nat) : Float := Float.ofScientific 1 false n

/-- Divides by a power of ten, in steps of `10 ^ 308` while the power is no double. -/
def divideByPower (x : Float) (n : Nat) : Float :=
  if n ≤ 308 then x / powerOfTen n
  else if x == 0.0 then x
  else divideByPower (x / powerOfTen 308) (n - 308)
  termination_by n

/-- The double for `significand · 10 ^ exponent`. -/
def scaleByPower (negative : Bool) (significand : Nat) (exponent : Int) : Except Error Number :=
  let x := (UInt64.ofNat significand).toFloat
  let signed (y : Float) : Number := .real (if negative then -y else y).toBits
  if exponent < 0 then .ok (signed (divideByPower x exponent.natAbs))
  else if exponent ≤ 308 then
    let y := x * powerOfTen exponent.toNat
    if y.isInf then .error .numberOutOfRange else .ok (signed y)
  else if significand = 0 then .ok (signed x)
  else .error .numberOutOfRange

/-- Reads the exponent after its `e`. Exponents of 32 bits or more are not computed: they make zero,
or a number that is too large. -/
def readExponent (negative : Bool) (significand : Nat) (scale : Int) (s : List UInt8) :
    Reading Number :=
  let (down, s) :=
    match s with
    | b :: rest =>
      if b = Byte.plus then (false, rest)
      else if b = Byte.minus then (true, rest)
      else (false, s)
    | [] => (false, s)
  match s with
  | [] => .error .endOfValue
  | b :: _ =>
    if Byte.isDigit b then
      let digits := s.takeWhile Byte.isDigit
      let rest := s.dropWhile Byte.isDigit
      match appendDigits 0x80000000 0 digits with
      | (e, []) =>
        (scaleByPower negative significand (if down then scale - e else scale + e)).map (·, rest)
      | (_, _ :: _) =>
        if significand ≠ 0 ∧ ¬ down then .error .numberOutOfRange
        else (scaleByPower negative 0 0).map (·, rest)
    else .error .invalidNumber

/-- Reads what may follow the whole part and the fraction of a number that is a double. -/
def readScaled (negative : Bool) (significand : Nat) (scale : Int) (s : List UInt8) :
    Reading Number :=
  match s with
  | b :: rest =>
    if b = 0x65 ∨ b = 0x45 then readExponent negative significand scale rest
    else (scaleByPower negative significand scale).map (·, s)
  | [] => (scaleByPower negative significand scale).map (·, s)

/-- Reads the fraction after its point. -/
def readFraction (negative : Bool) (significand : Nat) (scale : Int) (s : List UInt8) :
    Reading Number :=
  let digits := s.takeWhile Byte.isDigit
  let rest := s.dropWhile Byte.isDigit
  if digits.isEmpty then
    if rest.isEmpty then .error .endOfValue else .error .invalidNumber
  else
    let (significand, left) := appendDigits UInt64.size significand digits
    readScaled negative significand (scale - (digits.length - left.length : Nat)) rest

/-- A whole number of 64 bits, unsigned if it is not negative. Minus zero is no whole number. -/
def wholeNumber (negative : Bool) (n : Nat) : Except Error Number :=
  if ¬ negative then .ok (.integer n)
  else if 0 < n ∧ n ≤ 0x8000000000000000 then .ok (.integer (-n))
  else scaleByPower true n 0

/-- Reads a number after its sign. -/
def readUnsigned (negative : Bool) (s : List UInt8) : Reading Number :=
  let digits := s.takeWhile Byte.isDigit
  let rest := s.dropWhile Byte.isDigit
  match digits with
  | [] => if rest.isEmpty then .error .endOfValue else .error .invalidNumber
  | d :: more =>
    if d = 0x30 ∧ ¬ more.isEmpty then .error .invalidNumber
    else
      let (significand, left) := appendDigits UInt64.size 0 digits
      match rest with
      | b :: after =>
        if b = 0x2E then readFraction negative significand left.length after
        else if b = 0x65 ∨ b = 0x45 then readExponent negative significand left.length after
        else if left.isEmpty then (wholeNumber negative significand).map (·, rest)
        else (scaleByPower negative significand left.length).map (·, rest)
      | [] =>
        if left.isEmpty then (wholeNumber negative significand).map (·, rest)
        else (scaleByPower negative significand left.length).map (·, rest)

/-- Reads a number that begins here with a digit or a minus sign. -/
def readNumber (s : List UInt8) : Reading Number :=
  match s with
  | b :: rest => if b = Byte.minus then readUnsigned true rest else readUnsigned false s
  | [] => .error .endOfValue

end Chip8.Json

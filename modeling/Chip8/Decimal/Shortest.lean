/-!
# Shortest decimals

A finite binary number stands for every real that rounds to it. Among the decimals in that
interval the shortest is the one with the fewest digits, and among those the nearest to the
number. Everything is computed exactly, on natural numbers.
-/

namespace Chip8.Decimal

def powerOfTen (k : Nat) : Nat := Nat.pow 10 k

/-- A binary number and the reals that round to it, as multiples of `1 / scale`. -/
structure Interval where
  low : Nat
  value : Nat
  high : Nat
  scale : Nat
  /-- Whether the two ends round to the number. -/
  closed : Bool
  deriving DecidableEq, Repr

/-- The mantissa bit above the fraction, which normal doubles have and do not store. -/
def hiddenBit : Nat := 0x10000000000000

/-- The interval of a positive finite double with these bits (sign left out). The ends lie halfway
to the neighbours; below a power of two the spacing is half as wide. Ends go to the even
mantissa. -/
def Interval.ofBits (bits : UInt64) : Interval :=
  let fraction := bits.toNat % hiddenBit
  let biased := bits.toNat / hiddenBit % 0x800
  let mantissa := if biased = 0 then fraction else hiddenBit + fraction
  let below := if fraction = 0 ∧ 1 < biased then 1 else 2
  let shift := max biased 1
  -- the value is mantissa · 2 ^ (shift - 1075), and quarters of its spacing are whole numbers
  { low := (4 * mantissa - below) <<< (shift - 1077)
    value := (4 * mantissa) <<< (shift - 1077)
    high := (4 * mantissa + 2) <<< (shift - 1077)
    scale := 1 <<< (1077 - shift)
    closed := mantissa % 2 = 0 }

/-- The decimal `digits · 10 ^ exponent`: a point of the grid of multiples of `10 ^ exponent`. -/
structure GridPoint where
  digits : Nat
  exponent : Int
  deriving DecidableEq, Repr

namespace Interval

/-- `digits · 10 ^ exponent` as a multiple of `1 / (scale · 10 ^ k)` for a fixed `k`. -/
def scaled (i : Interval) (d : GridPoint) : Nat :=
  d.digits * powerOfTen d.exponent.toNat * i.scale

/-- A multiple of `1 / scale` brought to the same unit as `scaled`. -/
def lifted (d : GridPoint) (n : Nat) : Nat := n * powerOfTen (-d.exponent).toNat

def contains (i : Interval) (d : GridPoint) : Bool :=
  let x := i.scaled d
  let low := lifted d i.low
  let high := lifted d i.high
  if i.closed then low ≤ x && x ≤ high else low < x && x < high

/-- How far `d` lies from the value, in the unit of `scaled`. -/
def distance (i : Interval) (d : GridPoint) : Nat :=
  let x := i.scaled d
  let v := lifted d i.value
  (x - v) + (v - x)

/-- The exponent of the leading decimal digit of the value. -/
def leadingExponent (i : Interval) : Int :=
  let whole := i.value / i.scale
  if whole = 0 then
    match (List.range 400).find? fun k => i.scale ≤ i.value * powerOfTen k with
    | some k => -(k : Int)
    | none => 0
  else (Nat.toDigits 10 whole).length - 1

/-- The value's lower neighbour on the grid of multiples of `10 ^ exponent`. -/
def gridBelow (i : Interval) (exponent : Int) : GridPoint :=
  { digits := i.value * powerOfTen (-exponent).toNat / (i.scale * powerOfTen exponent.toNat)
    exponent }

/-- The nearest point of a grid, if one of the value's two neighbours on it lies in the interval. Of
two equally near ones the even one is taken. -/
def onGrid (i : Interval) (exponent : Int) : Option GridPoint :=
  let below := i.gridBelow exponent
  let above := { below with digits := below.digits + 1 }
  match i.contains below, i.contains above with
  | false, false => none
  | true, false => some below
  | false, true => some above
  | true, true =>
    let gap := i.distance below
    let gap' := i.distance above
    if gap < gap' ∨ gap = gap' ∧ below.digits % 2 = 0 then some below else some above

/-- The shortest decimal: the first of the grids with 1 to 17 digits that meets the interval. -/
def shortest (i : Interval) : GridPoint :=
  let leading := i.leadingExponent
  let found := (List.range 17).findSome? fun (k : Nat) => i.onGrid (leading - k)
  found.getD (i.gridBelow (leading - 16))

end Interval

/-- The bit that negative doubles have. -/
def signBit : Nat := 0x8000000000000000

/-- How a decimal is laid out as text. -/
structure Layout where
  /-- The least and the greatest exponent of the leading digit that are written without an
  exponent. -/
  least : Int
  greatest : Int
  deriving DecidableEq, Repr

namespace Layout

/-- An exponent always has a sign, and no more digits than it needs. -/
def exponentText (e : Int) : String := (if e < 0 then "-" else "+") ++ e.natAbs.repr

/-- The text of a number with the given significant digits, the first of which stands for a multiple
of `10 ^ leading`. Whole numbers written without an exponent end in `.0`. -/
def digitsText (l : Layout) (digits : List Char) (leading : Int) : String :=
  if l.least ≤ leading ∧ leading ≤ l.greatest then
    if leading < 0 then
      "0." ++ String.ofList (List.replicate (-leading - 1).toNat '0' ++ digits)
    else
      let wholeCount := leading.toNat + 1
      let whole := digits.take wholeCount ++ List.replicate (wholeCount - digits.length) '0'
      let rest := digits.drop wholeCount
      String.ofList whole ++ "." ++ (if rest.isEmpty then "0" else String.ofList rest)
  else
    let rest := digits.drop 1
    String.ofList (digits.take 1) ++ (if rest.isEmpty then "" else "." ++ String.ofList rest)
      ++ "e" ++ exponentText leading

/-- The text of the finite double with these bits. -/
def text (l : Layout) (bits : UInt64) : String :=
  let sign := if signBit ≤ bits.toNat then "-" else ""
  if bits.toNat % signBit = 0 then sign ++ "0.0"
  else
    let d := (Interval.ofBits bits).shortest
    let all := Nat.toDigits 10 d.digits
    let significant := (all.reverse.dropWhile (· = '0')).reverse
    sign ++ l.digitsText significant (d.exponent + (all.length - 1))

end Layout

end Chip8.Decimal

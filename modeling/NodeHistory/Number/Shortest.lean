import NodeHistory.Number.Binary64

/-!
Decimal text of binary numbers: the fewest digits that read back as the same number, and of
those the nearest to it. The reals that read back as a number form an interval around it, which
contains its ends iff the mantissa is even. For one digit, two digits and so on the two
neighbours of the number on the grid of that many digits are tried, until one lies within.
-/

namespace NodeHistory.Number

/-- The interval of the reals that round to a number, over a common denominator. -/
structure Interval where
  value : Nat
  low : Nat
  high : Nat
  denominator : Nat
  closed : Bool

namespace Interval

/-- Below a power of two the numbers lie twice as dense as above it. -/
def ofBinary (mantissa : Nat) (exponent : Int) : Interval :=
  let below :=
    if mantissa = Nat.pow 2 (Binary64.mantissaBits - 1) ∧ exponent ≠ Binary64.leastExponent then 1
    else 2
  let (scale, denominator) := Binary64.ratio 1 (exponent - 2)
  { value := 4 * mantissa * scale
    low := (4 * mantissa - below) * scale
    high := (4 * mantissa + 2) * scale
    denominator
    closed := mantissa % 2 = 0 }

/-- A quotient lies in the interval. -/
def contains (i : Interval) (numerator denominator : Nat) : Bool :=
  let place := numerator * i.denominator
  if i.closed then i.low * denominator ≤ place && place ≤ i.high * denominator
  else i.low * denominator < place && place < i.high * denominator

/-- `n` times a power of ten as a quotient. -/
def grid (n : Nat) (power : Int) : Nat × Nat :=
  if 0 ≤ power then (n * Nat.pow 10 power.toNat, 1) else (n, Nat.pow 10 (-power).toNat)

/-- The number of digits before the point, or minus the number of zeros behind it. -/
def magnitude (i : Interval) : Int :=
  let estimate : Int := ((i.value.log2 : Int) - i.denominator.log2) * 30103 / 100000
  let reaches (power : Int) : Bool :=
    let (n, d) := grid 1 power
    i.value * d < n * i.denominator
  if reaches estimate then estimate
  else if reaches (estimate + 1) then estimate + 1
  else estimate + 2

/-- The nearer one of the value's neighbours on a grid, if it lies in the interval, else the
other one if that does. -/
def onGrid? (i : Interval) (power : Int) : Option Nat :=
  let (n, d) := grid 1 power
  let floor := i.value * d / (n * i.denominator)
  let rest := i.value * d % (n * i.denominator)
  let nearer := if 2 * rest < n * i.denominator ∨ (2 * rest = n * i.denominator ∧ floor % 2 = 0)
    then floor else floor + 1
  let other := 2 * floor + 1 - nearer
  let fits (k : Nat) : Bool :=
    let (n, d) := grid k power
    i.contains n d
  if fits nearer then some nearer else if fits other then some other else none

/-- Digits and the power of ten of the last one, tried on grids that grow finer. -/
def digitsFrom (i : Interval) : (tries : Nat) → (power : Int) → Nat × Int
  | 0, power => ((i.onGrid? power).getD 0, power)
  | tries + 1, power =>
    match i.onGrid? power with
    | some digits => (digits, power)
    | none => digitsFrom i tries (power - 1)

end Interval

/-- Drops the zeros that end a row of digits, last digit first, and raises the power instead. -/
def withoutZeros : List Char → Int → List Char × Int
  | '0' :: d :: rest, power => withoutZeros (d :: rest) (power + 1)
  | reversed, power => (reversed.reverse, power)

/-- The shortest digits of a positive number and the power of ten of the last one. Seventeen
always suffice. -/
def shortestDigits (mantissa : Nat) (exponent : Int) : List Char × Int :=
  let interval := Interval.ofBinary mantissa exponent
  let (digits, power) := interval.digitsFrom 17 (interval.magnitude - 1)
  withoutZeros (Nat.toDigits 10 digits).reverse power

/-- How numbers are laid out: where positional notation ends, and how many digits an exponent has
at least. -/
structure Layout where
  leastPositional : Int
  greatestPositional : Int
  exponentWidth : Nat

/-- Numbers of up to sixteen digits before the point or four places behind it are written out. -/
def Layout.plain : Layout := ⟨-4, 15, 2⟩

def Layout.exponentText (layout : Layout) (exponent : Int) : List Char :=
  let digits := Nat.toDigits 10 exponent.natAbs
  'e' :: (if exponent < 0 then '-' else '+') ::
    (List.replicate (layout.exponentWidth - digits.length) '0' ++ digits)

/-- Digits with the power of ten of the first one. -/
def Layout.text (layout : Layout) (digits : List Char) (lead : Int) : List Char :=
  if layout.leastPositional ≤ lead ∧ lead ≤ layout.greatestPositional then
    if lead < 0 then
      '0' :: '.' :: (List.replicate (-lead - 1).toNat '0' ++ digits)
    else
      let before := lead.toNat + 1
      let whole := digits.take before ++ List.replicate (before - digits.length) '0'
      let places := digits.drop before
      whole ++ '.' :: (if places.isEmpty then ['0'] else places)
  else
    match digits with
    | [d] => d :: layout.exponentText lead
    | d :: places => d :: '.' :: (places ++ layout.exponentText lead)
    | [] => []

namespace Binary64

def text (layout : Layout := .plain) : Binary64 → String
  | .nan => "nan"
  | .infinity negative => if negative then "-inf" else "inf"
  | .finite negative mantissa exponent =>
    let digits := if mantissa = 0 then layout.text ['0'] 0
      else
        let (digits, power) := shortestDigits mantissa exponent
        layout.text digits (power + digits.length - 1)
    String.ofList (if negative then '-' :: digits else digits)

end Binary64

end NodeHistory.Number

import NodeHistory.Text.Digit

/-!
Unsigned decimal numbers as they are written: a row of digits and the number of them that stand
behind the point. Arithmetic on fractions keeps `precision` significant digits and rounds a half
to the even neighbour; where the whole part alone has more digits, it is refused.
-/

namespace NodeHistory.Number

/-- The quotient rounded to the nearest whole number, a half to the even one. -/
def roundHalfEven (numerator denominator : Nat) : Nat :=
  let quotient := numerator / denominator
  let twice := 2 * (numerator % denominator)
  if twice < denominator then quotient
  else if denominator < twice then quotient + 1
  else quotient + quotient % 2

structure Decimal where
  coefficient : Nat
  places : Nat := 0
deriving DecidableEq, Repr

namespace Decimal

def precision : Nat := 28

/-- Reads digits with at most one point among them, and at least one digit. -/
def ofText? (text : List Char) : Option Decimal :=
  let whole := text.takeWhile (· ≠ '.')
  let fraction := (text.dropWhile (· ≠ '.')).drop 1
  (Text.number? (whole ++ fraction)).map (⟨·, fraction.length⟩)

def unit (d : Decimal) : Nat := Nat.pow 10 d.places

def whole (d : Decimal) : Nat := d.coefficient / d.unit

def atLeast (d : Decimal) (n : Nat) : Bool := n * d.unit ≤ d.coefficient

def above (d : Decimal) (n : Nat) : Bool := n * d.unit < d.coefficient

def atMost (d : Decimal) (n : Nat) : Bool := d.coefficient ≤ n * d.unit

def below (d : Decimal) (n : Nat) : Bool := d.coefficient < n * d.unit

def digitCount (n : Nat) : Nat := (Nat.toDigits 10 n).length

/-- Keeps the leading `precision` digits. -/
def rounded (d : Decimal) : Decimal :=
  let surplus := digitCount d.coefficient - precision
  if surplus = 0 then d
  else if surplus ≤ d.places then
    ⟨roundHalfEven d.coefficient (Nat.pow 10 surplus), d.places - surplus⟩
  else ⟨roundHalfEven d.coefficient (Nat.pow 10 surplus) * Nat.pow 10 (surplus - d.places), 0⟩

/-- What stands behind the point; `none` if the whole part has more than `precision` digits. -/
def fraction? (d : Decimal) : Option Decimal :=
  if digitCount d.whole > precision then none
  else some (rounded ⟨d.coefficient % d.unit, d.places⟩)

def isZero (d : Decimal) : Bool := d.coefficient = 0

/-- The whole part of sixty times a fraction, as hours give minutes and minutes seconds. -/
def sixtieths (d : Decimal) : Nat := (rounded ⟨60 * d.coefficient, d.places⟩).whole

end Decimal

end NodeHistory.Number

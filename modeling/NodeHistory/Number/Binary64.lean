import NodeHistory.Number.Decimal

/-!
Binary floating-point numbers of double precision, as exact values: a finite number is a whole
mantissa times a power of two. `ofRatio` rounds a quotient of whole numbers to the nearest such
number, a half to the even mantissa, and `ofDecimal` reads digits with a power of ten that way.
-/

namespace NodeHistory.Number

inductive Binary64 where
  | nan
  | infinity (negative : Bool)
  | finite (negative : Bool) (mantissa : Nat) (exponent : Int)
deriving DecidableEq, Repr

namespace Binary64

def mantissaBits : Nat := 53
def leastExponent : Int := -1074
def greatestExponent : Int := 971

/-- A quotient divided by a power of two, as a quotient again. -/
def scaleDown (numerator denominator : Nat) (exponent : Int) : Nat × Nat :=
  if 0 ≤ exponent then (numerator, denominator * Nat.pow 2 exponent.toNat)
  else (numerator * Nat.pow 2 (-exponent).toNat, denominator)

/-- The exponent that leaves a mantissa of `mantissaBits` bits, or the least there is. -/
def exponentOf (numerator denominator : Nat) : Int :=
  let estimate : Int := (numerator.log2 : Int) - denominator.log2 - (mantissaBits - 1 : Nat)
  let (n, d) := scaleDown numerator denominator estimate
  max leastExponent (if n / d < Nat.pow 2 (mantissaBits - 1) then estimate - 1 else estimate)

def ofRatio (negative : Bool) (numerator denominator : Nat) : Binary64 :=
  if numerator = 0 ∨ denominator = 0 then .finite negative 0 leastExponent
  else
    let exponent := exponentOf numerator denominator
    let (n, d) := scaleDown numerator denominator exponent
    let mantissa := roundHalfEven n d
    let (mantissa, exponent) :=
      if mantissa = Nat.pow 2 mantissaBits then (mantissa / 2, exponent + 1)
      else (mantissa, exponent)
    if greatestExponent < exponent then .infinity negative
    else .finite negative mantissa exponent

/-- A row of digits times a power of ten. Powers far beyond the range are not computed. -/
def ofDecimal (negative : Bool) (digits : Nat) (power : Int) : Binary64 :=
  let magnitude : Int := power + Decimal.digitCount digits
  if digits = 0 ∨ magnitude < -400 then .finite negative 0 leastExponent
  else if 400 < magnitude then .infinity negative
  else if 0 ≤ power then ofRatio negative (digits * Nat.pow 10 power.toNat) 1
  else ofRatio negative digits (Nat.pow 10 (-power).toNat)

/-- The absolute value of a finite number as a quotient. -/
def ratio (mantissa : Nat) (exponent : Int) : Nat × Nat := scaleDown mantissa 1 (-exponent)

/-- A number of seconds in whole microseconds; `none` if it is not finite. The fraction of a
second is rounded twice: times a million to a binary number, and that to a whole one. -/
def micros? : Binary64 → Option Int
  | .finite negative mantissa exponent =>
    let (n, d) := ratio mantissa exponent
    let fraction := match ofRatio false (n % d * 1000000) d with
      | .finite _ m e =>
        let (n, d) := ratio m e
        roundHalfEven n d
      | _ => 0
    let total : Int := n / d * 1000000 + fraction
    some (if negative then -total else total)
  | _ => none

end Binary64

end NodeHistory.Number

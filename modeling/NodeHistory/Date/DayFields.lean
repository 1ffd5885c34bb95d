import NodeHistory.Date.Vocabulary
import NodeHistory.Number.Decimal
import NodeHistory.Time.Calendar

/-!
The numbers of a calendar date in the order in which they are written, and the decision which of
them is the year, the month and the day. A number may be marked as the year, by its length or
size, or as the month, by its name; the others are told by their size and place.
-/

namespace NodeHistory.Date

inductive Mark where
  | year
  | month
deriving DecidableEq, Repr

structure DayFields where
  values : List Nat := []
  yearAt? : Option Nat := none
  monthAt? : Option Nat := none
  /-- Some number was written with its century. -/
  withCentury : Bool := false
deriving DecidableEq, Repr

namespace DayFields

/-- Adds a number with the mark it was given; a mark is given once. -/
private def put (f : DayFields) (value : Nat) (mark? : Option Mark) : Option DayFields :=
  let place := f.values.length
  let g := { f with values := f.values ++ [value] }
  match mark? with
  | none => some g
  | some .year => if f.yearAt?.isSome then none else some { g with yearAt? := some place }
  | some .month => if f.monthAt?.isSome then none else some { g with monthAt? := some place }

/-- Adds a number that must be a year because it names a century. -/
private def putCentury (f : DayFields) (value : Nat) : Option DayFields :=
  put { f with withCentury := true } value (some .year)

/-- More than two digits spell a year. -/
def addToken (f : DayFields) (token : Token) (mark? : Option Mark := none) :
    Option DayFields := do
  let value ← Text.boundedNumber? token
  if token.isDigits && 2 < token.length then f.putCentury value
  else f.put value mark?

/-- A number above a hundred is a year. -/
def addDecimal (f : DayFields) (d : Number.Decimal) : Option DayFields :=
  if d.above 100 then f.putCentury d.whole else f.put d.whole none

def addMonth (f : DayFields) (month : Nat) : Option DayFields := f.put month (some .month)

def value (f : DayFields) (place : Nat) : Nat := f.values.getD place 0

/-- A number that fits the month if it is known; without a year the month may be that of a leap
year. -/
def couldBeDay (f : DayFields) (d : Number.Decimal) : Bool :=
  let longest := match f.monthAt?, f.yearAt? with
    | none, _ => 31
    | some month, none => Time.monthLength 2000 (f.value month)
    | some month, some year => Time.monthLength (f.value year) (f.value month)
  d.atLeast 1 && d.atMost longest

end DayFields

/-- What is known of a calendar day. -/
structure DayParts where
  year : Option Nat := none
  month : Option Nat := none
  day : Option Nat := none
deriving DecidableEq, Repr

namespace DayFields

/-- Where the marks tell all: each number is marked, or one of three is not. -/
private def byMarks (f : DayFields) : DayParts where
  year := f.yearAt?.map f.value
  month := f.monthAt?.map f.value
  day := match f.yearAt?, f.monthAt? with
    | some year, some month =>
      if f.values.length = 3 then some (f.value (3 - year - month)) else none
    | _, _ => none

private def single (value : Nat) (month : Option Nat) : DayParts :=
  if 31 < value then { year := some value, month } else { month, day := some value }

private def ymd (year month day : Nat) : DayParts := ⟨some year, some month, some day⟩

/-- Which number is which; `none` for more than three. -/
def resolve? (f : DayFields) : Option DayParts :=
  let marks := (f.yearAt?.toList ++ f.monthAt?.toList).length
  if (f.values.length = marks ∧ 0 < marks) ∨ (f.values.length = 3 ∧ marks = 2) then
    some f.byMarks
  else
    match f.values, f.monthAt? with
    | [], _ => some {}
    | [a], _ => some (single a none)
    | [a, b], some 0 => some (single b (some a))
    | [a, b], some _ => some (single a (some b))
    | [a, b], none =>
      some (if 31 < a then { year := some a, month := some b }
        else if 31 < b then { year := some b, month := some a }
        else { month := some a, day := some b })
    | [a, b, c], some 0 => some (if 31 < b then ymd b a c else ymd c a b)
    | [a, b, c], some 1 => some (if 31 < a then ymd a b c else ymd c b a)
    | [a, b, c], some _ => some (if 31 < b then ymd b c a else ymd a c b)
    | [a, b, c], none =>
      some (if 31 < a ∨ f.yearAt? = some 0 then ymd a b c
        else if 12 < a then ymd c b a
        else ymd c a b)
    | _, _ => none

end DayFields

end NodeHistory.Date

import NodeHistory.Time.Calendar

/-!
A civil reading of a moment: calendar date and clock. A reading is `Valid` if the calendar has
that date within the years 1 to 9999 and the clock shows that time.
-/

namespace NodeHistory.Time

def lastYear : Nat := 9999

structure Civil where
  year : Nat
  month : Nat
  day : Nat
  hour : Nat := 0
  minute : Nat := 0
  second : Nat := 0
  micro : Nat := 0
deriving DecidableEq, Repr

namespace Civil

def Valid (c : Civil) : Prop :=
  (1 ≤ c.year ∧ c.year ≤ lastYear) ∧ (1 ≤ c.month ∧ c.month ≤ 12) ∧
    (1 ≤ c.day ∧ c.day ≤ monthLength c.year c.month) ∧
    c.hour < 24 ∧ c.minute < 60 ∧ c.second < 60 ∧ c.micro < 1000000

instance (c : Civil) : Decidable c.Valid := by
  unfold Valid
  infer_instance

def seconds (c : Civil) : Nat :=
  dayNumber c.year c.month c.day * 86400 + c.hour * 3600 + c.minute * 60 + c.second

def micros (c : Civil) : Nat := c.seconds * 1000000 + c.micro

/-- The reading of a moment that is given in microseconds since the start of year 1. -/
def ofMicros (micros : Nat) : Civil :=
  let second := micros / 1000000
  let number := second / 86400
  let year := yearOfDay number
  let (month, day) := monthOfDay (monthLengths year) (number - daysBeforeYear year)
  ⟨year, month, day, second / 3600 % 24, second / 60 % 60, second % 60, micros % 1000000⟩

end Civil

end NodeHistory.Time

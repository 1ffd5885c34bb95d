/-!
The Gregorian calendar, extended back to year 1, as a count of days. Day 0 is the first of
January of year 1, a Monday. `yearOfDay` estimates the year from the mean length of a year
and corrects the estimate by one year either way; the lemmas say that the correction suffices
and that a day lies within the year found for it.
-/

namespace NodeHistory.Time

def isLeap (year : Nat) : Bool :=
  year % 4 == 0 && (year % 100 != 0 || year % 400 == 0)

def monthLengths (year : Nat) : List Nat :=
  [31, if isLeap year then 29 else 28, 31, 30, 31, 30, 31, 31, 30, 31, 30, 31]

/-- Zero for a number that names no month. -/
def monthLength (year : Nat) : Nat → Nat
  | 0 => 0
  | month + 1 => (monthLengths year).getD month 0

def yearLength (year : Nat) : Nat := if isLeap year then 366 else 365

/-- Days from the start of year 1 to the start of a year. -/
def daysBeforeYear (year : Nat) : Nat :=
  365 * (year - 1) + (year - 1) / 4 - (year - 1) / 100 + (year - 1) / 400

def daysBeforeMonth (year month : Nat) : Nat :=
  ((monthLengths year).take (month - 1)).foldl (· + ·) 0

def dayNumber (year month day : Nat) : Nat :=
  daysBeforeYear year + daysBeforeMonth year month + (day - 1)

def yearOfDay (number : Nat) : Nat :=
  let estimate := number * 400 / 146097 + 1
  if number < daysBeforeYear estimate then estimate - 1
  else if daysBeforeYear (estimate + 1) ≤ number then estimate + 1
  else estimate

/-- Month and day of a day that is counted from the start of its year, given the months' lengths. -/
def monthOfDay : List Nat → Nat → Nat × Nat
  | [], day => (1, day + 1)
  | length :: later, day =>
    if day < length then (1, day + 1)
    else
      let (month, rest) := monthOfDay later (day - length)
      (month + 1, rest)

/-- 0 is Monday. -/
def weekday (number : Nat) : Nat := number % 7

theorem monthLengths_total (year : Nat) :
    (monthLengths year).foldl (· + ·) 0 = yearLength year := by
  simp only [monthLengths, yearLength]
  split <;> rfl

theorem daysBeforeYear_succ {year : Nat} (positive : 0 < year) :
    daysBeforeYear (year + 1) = daysBeforeYear year + yearLength year := by
  obtain ⟨before, rfl⟩ : ∃ before, year = before + 1 := ⟨year - 1, by omega⟩
  unfold daysBeforeYear yearLength isLeap
  by_cases fourth : (before + 1) % 4 = 0
  · by_cases hundredth : (before + 1) % 100 = 0
    · by_cases fourHundredth : (before + 1) % 400 = 0
      · simp [fourth, hundredth, fourHundredth]
        omega
      · simp [fourth, hundredth, fourHundredth]
        omega
    · simp [fourth, hundredth]
      omega
  · have fourths : (before + 1) / 4 = before / 4 := by omega
    have hundredths : (before + 1) / 100 = before / 100 := by omega
    have fourHundredths : (before + 1) / 400 = before / 400 := by omega
    simp [fourth, fourths, hundredths, fourHundredths]
    omega

theorem daysBeforeYear_yearOfDay_le (number : Nat) :
    daysBeforeYear (yearOfDay number) ≤ number := by
  unfold yearOfDay
  dsimp only
  split
  · unfold daysBeforeYear
    omega
  · split <;> omega

theorem lt_daysBeforeYear_yearOfDay_succ (number : Nat) :
    number < daysBeforeYear (yearOfDay number + 1) := by
  unfold yearOfDay
  dsimp only
  split
  next early =>
    unfold daysBeforeYear at early ⊢
    omega
  next =>
    split
    · unfold daysBeforeYear
      omega
    · omega

end NodeHistory.Time

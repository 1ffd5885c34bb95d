import Mathlib.Algebra.BigOperators.Group.List.Basic
import Mathlib.Algebra.GroupWithZero.Nat
import Mathlib.Order.Monotone.Basic
import NodeHistory.Proofs.Time.CivilReading

/-!
Reckoning with dates. The days before a year and before a month single out the year and the month of
a day, so that the count of a date and the date of a count undo each other. Main statement: the
moments of the type are the valid civil readings, each once.
-/

namespace NodeHistory.Time

theorem daysBeforeYear_mono : Monotone daysBeforeYear := by
  apply monotone_nat_of_le_succ
  intro year
  cases year with
  | zero => decide
  | succ before =>
      rw [daysBeforeYear_succ (Nat.succ_pos before)]
      exact Nat.le_add_right _ _

/-- A day lies in the one year that begins no later and ends after it. -/
theorem yearOfDay_eq {year number : Nat} (hbegun : daysBeforeYear year ≤ number)
    (hgoing : number < daysBeforeYear (year + 1)) : yearOfDay number = year := by
  have hlow := daysBeforeYear_yearOfDay_le number
  have hhigh := lt_daysBeforeYear_yearOfDay_succ number
  rcases Nat.lt_trichotomy (yearOfDay number) year with hearly | hsame | hlate
  · have hle : daysBeforeYear (yearOfDay number + 1) ≤ daysBeforeYear year :=
      daysBeforeYear_mono hearly
    omega
  · exact hsame
  · have hle : daysBeforeYear (year + 1) ≤ daysBeforeYear (yearOfDay number) :=
      daysBeforeYear_mono hlate
    omega

theorem daysBeforeMonth_eq (year month : Nat) :
    daysBeforeMonth year month = ((monthLengths year).take (month - 1)).sum := by
  rw [daysBeforeMonth, List.sum_eq_foldl]

theorem monthLength_eq_getD {year month : Nat} (h : 1 ≤ month) :
    monthLength year month = (monthLengths year).getD (month - 1) 0 := by
  obtain ⟨before, rfl⟩ := Nat.exists_eq_add_of_le' h
  rfl

theorem monthLength_le (year month : Nat) : monthLength year month ≤ 31 := by
  have hall : ∀ length ∈ monthLengths year, length ≤ 31 := by
    simp only [monthLengths, List.forall_mem_cons]
    split <;> simp
  cases month with
  | zero => exact Nat.zero_le 31
  | succ before =>
      rw [monthLength, List.getD_eq_getElem?_getD]
      cases hat : (monthLengths year)[before]? with
      | none => exact Nat.zero_le 31
      | some length => exact hall length (List.mem_of_getElem? hat)

theorem monthLengths_sum (year : Nat) : (monthLengths year).sum = yearLength year := by
  rw [List.sum_eq_foldl, monthLengths_total]

/-- The days before a month, and of the month up to a day, are the days up to it. -/
theorem monthOfDay_total (lengths : List Nat) (day : Nat) :
    1 ≤ (monthOfDay lengths day).1 ∧ 1 ≤ (monthOfDay lengths day).2 ∧
      (lengths.take ((monthOfDay lengths day).1 - 1)).sum + (monthOfDay lengths day).2 =
        day + 1 := by
  induction lengths generalizing day with
  | nil => simp [monthOfDay]
  | cons length later ih =>
      unfold monthOfDay
      split
      · simp
      · obtain ⟨hmonth, hday, htotal⟩ := ih (day - length)
        obtain ⟨before, hbefore⟩ := Nat.exists_eq_add_of_le' hmonth
        simp only [hbefore, Nat.add_sub_cancel, List.take_succ_cons, List.sum_cons] at htotal ⊢
        omega

/-- A day of a month is found behind the days before that month. -/
theorem monthOfDay_behind {lengths : List Nat} {before day : Nat}
    (hday : day < lengths.getD before 0) :
    monthOfDay lengths ((lengths.take before).sum + day) = (before + 1, day + 1) := by
  induction lengths generalizing before with
  | nil => simp at hday
  | cons length later ih =>
      cases before with
      | zero =>
          have hshort : day < length := by simpa using hday
          simp [monthOfDay, hshort]
      | succ before =>
          rw [List.getD_cons_succ] at hday
          have hlong : ¬ length + (later.take before).sum + day < length := by omega
          have hrest : length + (later.take before).sum + day - length =
              (later.take before).sum + day := by omega
          rw [List.take_succ_cons, List.sum_cons, monthOfDay, if_neg hlong, hrest, ih hday]

theorem sum_take_add_getD_le (lengths : List Nat) (before : Nat) :
    (lengths.take before).sum + lengths.getD before 0 ≤ lengths.sum := by
  induction lengths generalizing before with
  | nil => simp
  | cons length later ih =>
      cases before with
      | zero => simp
      | succ before =>
          have hrest := ih before
          rw [List.take_succ_cons, List.sum_cons, List.sum_cons, List.getD_cons_succ]
          omega

theorem dayNumber_bounds {year month day : Nat} (hyear : 1 ≤ year) (hmonth : 1 ≤ month)
    (hday : 1 ≤ day) (hlength : day ≤ monthLength year month) :
    daysBeforeYear year ≤ dayNumber year month day ∧
      dayNumber year month day < daysBeforeYear (year + 1) := by
  have hwithin := sum_take_add_getD_le (monthLengths year) (month - 1)
  rw [monthLengths_sum, ← monthLength_eq_getD hmonth] at hwithin
  rw [daysBeforeYear_succ hyear, dayNumber, daysBeforeMonth_eq]
  omega

namespace Civil

theorem ofMicros_eq {micros number year : Nat} {found : Nat × Nat}
    (hnumber : micros / 1000000 / 86400 = number) (hyear : yearOfDay number = year)
    (hfound : monthOfDay (monthLengths year) (number - daysBeforeYear year) = found) :
    ofMicros micros = ⟨year, found.1, found.2, micros / 1000000 / 3600 % 24,
      micros / 1000000 / 60 % 60, micros / 1000000 % 60, micros % 1000000⟩ := by
  subst hnumber hyear hfound
  rfl

/-- The count of the reading of a moment is the moment's. -/
theorem micros_ofMicros (micros : Nat) : (ofMicros micros).micros = micros := by
  rw [ofMicros_eq rfl rfl rfl]
  have hbegun := daysBeforeYear_yearOfDay_le (micros / 1000000 / 86400)
  generalize yearOfDay (micros / 1000000 / 86400) = year at hbegun ⊢
  obtain ⟨-, hday, htotal⟩ :=
    monthOfDay_total (monthLengths year) (micros / 1000000 / 86400 - daysBeforeYear year)
  simp only [Civil.micros, seconds, dayNumber, daysBeforeMonth_eq]
  omega

variable {c : Civil}

/-- The reading of the moment that a valid reading counts is that reading. -/
theorem ofMicros_micros (h : c.Valid) : ofMicros c.micros = c := by
  obtain ⟨⟨hyear, -⟩, ⟨hmonth, -⟩, ⟨hday, hlength⟩, hhour, hminute, hsecond, hmicro⟩ := h
  obtain ⟨hbegun, hgoing⟩ := dayNumber_bounds hyear hmonth hday hlength
  have hseconds : c.micros / 1000000 = c.seconds := by
    unfold Civil.micros
    omega
  have hnumber : c.seconds / 86400 = dayNumber c.year c.month c.day := by
    unfold seconds
    omega
  have hmonths : monthOfDay (monthLengths c.year)
      (dayNumber c.year c.month c.day - daysBeforeYear c.year) = (c.month, c.day) := by
    have hrest : dayNumber c.year c.month c.day - daysBeforeYear c.year =
        ((monthLengths c.year).take (c.month - 1)).sum + (c.day - 1) := by
      rw [dayNumber, daysBeforeMonth_eq]
      omega
    rw [monthLength_eq_getD hmonth] at hlength
    rw [hrest, monthOfDay_behind (by omega), Nat.sub_add_cancel hmonth, Nat.sub_add_cancel hday]
  rw [ofMicros_eq (hseconds ▸ hnumber) (yearOfDay_eq hbegun hgoing) hmonths, hseconds]
  have hclock : c.seconds / 3600 % 24 = c.hour ∧ c.seconds / 60 % 60 = c.minute ∧
      c.seconds % 60 = c.second ∧ c.micros % 1000000 = c.micro := by
    unfold Civil.micros seconds
    omega
  obtain ⟨hh, hm, hs, hu⟩ := hclock
  simp only [hh, hm, hs, hu]

theorem Valid.inRange (h : c.Valid) :
    c.micros < daysBeforeYear (lastYear + 1) * 86400 * 1000000 := by
  obtain ⟨⟨hyear, hlast⟩, ⟨hmonth, -⟩, ⟨hday, hlength⟩, hhour, hminute, hsecond, hmicro⟩ := h
  have hgoing := (dayNumber_bounds hyear hmonth hday hlength).2
  have hle : daysBeforeYear (c.year + 1) ≤ daysBeforeYear (lastYear + 1) :=
    daysBeforeYear_mono (Nat.succ_le_succ hlast)
  unfold Civil.micros seconds
  omega

/-- Every part of a valid reading fits the figures that it is written in. -/
theorem Valid.fits (h : c.Valid) :
    c.year < 10 ^ 4 ∧ c.month < 10 ^ 2 ∧ c.day < 10 ^ 2 ∧ c.hour < 10 ^ 2 ∧ c.minute < 10 ^ 2 ∧
      c.second < 10 ^ 2 ∧ c.micro < 10 ^ 6 := by
  obtain ⟨⟨-, hyear⟩, ⟨-, hmonth⟩, ⟨-, hday⟩, hhour, hminute, hsecond, hmicro⟩ := h
  have hlongest := monthLength_le c.year c.month
  unfold lastYear at hyear
  omega

/-- There is one moment that is read so. -/
theorem Valid.existsUnique_instant (h : c.Valid) : ∃! t : Instant, t.civil = c := by
  refine ⟨⟨c.micros, h.inRange⟩, ofMicros_micros h, ?_⟩
  intro t ht
  have hmicros : t.civil.micros = t.micros := micros_ofMicros t.micros
  exact Instant.ext (hmicros.symm.trans (congrArg Civil.micros ht))

end Civil

namespace Instant

theorem ofMicros?_micros (t : Instant) : ofMicros? t.micros = some t := by
  have hrange : 0 ≤ (t.micros : Int) ∧ (t.micros : Int).toNat <
      daysBeforeYear (lastYear + 1) * 86400 * 1000000 := ⟨Int.natCast_nonneg _, t.inRange⟩
  rw [ofMicros?, dif_pos hrange]
  rfl

theorem ofCivil?_civil (t : Instant) : ofCivil? t.civil = some t := by
  have hmicros : t.civil.micros = t.micros := Civil.micros_ofMicros t.micros
  rw [ofCivil?, if_pos t.civil_valid, hmicros, ofMicros?_micros]

end Instant

end NodeHistory.Time

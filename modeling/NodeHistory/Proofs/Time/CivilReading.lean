import NodeHistory.Time.Instant

/-!
Civil readings of moments. A moment lies in one of the years 1 to 9999, so it is read as a date that
the calendar has and as a time that a clock shows.
-/

namespace NodeHistory.Time

theorem monthOfDay_bounds {lengths : List Nat} {day : Nat}
    (h : day < lengths.foldr (· + ·) 0) :
    (1 ≤ (monthOfDay lengths day).1 ∧ (monthOfDay lengths day).1 ≤ lengths.length) ∧
      1 ≤ (monthOfDay lengths day).2 ∧
      (monthOfDay lengths day).2 ≤ lengths.getD ((monthOfDay lengths day).1 - 1) 0 := by
  induction lengths generalizing day with
  | nil => simp at h
  | cons length later ih =>
      rw [List.foldr_cons] at h
      unfold monthOfDay
      split
      · simp
        omega
      · have hrest : day - length < later.foldr (· + ·) 0 := by omega
        obtain ⟨⟨hfirst, hlast⟩, hday, hlength⟩ := ih hrest
        obtain ⟨before, hbefore⟩ : ∃ before, (monthOfDay later (day - length)).1 = before + 1 :=
          ⟨_, (Nat.sub_add_cancel hfirst).symm⟩
        simp only [hbefore, Nat.add_sub_cancel, List.length_cons, List.getD_cons_succ] at *
        exact ⟨by omega, hday, hlength⟩

theorem monthLengths_foldr (year : Nat) :
    (monthLengths year).foldr (· + ·) 0 = yearLength year := by
  simp only [monthLengths, yearLength]
  split <;> rfl

theorem yearOfDay_pos (number : Nat) : 1 ≤ yearOfDay number := by
  apply Nat.pos_of_ne_zero
  intro hzero
  have hlt := lt_daysBeforeYear_yearOfDay_succ number
  simp [hzero, daysBeforeYear] at hlt

theorem yearOfDay_le_lastYear {number : Nat} (h : number < daysBeforeYear (lastYear + 1)) :
    yearOfDay number ≤ lastYear := by
  apply Nat.le_of_not_lt
  intro hlate
  have hle := daysBeforeYear_yearOfDay_le number
  unfold daysBeforeYear lastYear at *
  omega

/-- Whatever the day, its month has it. -/
theorem monthOfDay_monthLength (number : Nat) {year : Nat} (hyear : year = yearOfDay number)
    {found : Nat × Nat}
    (hfound : found = monthOfDay (monthLengths year) (number - daysBeforeYear year)) :
    (1 ≤ found.1 ∧ found.1 ≤ 12) ∧ 1 ≤ found.2 ∧ found.2 ≤ monthLength year found.1 := by
  subst hyear
  have hlow := daysBeforeYear_yearOfDay_le number
  have hhigh := lt_daysBeforeYear_yearOfDay_succ number
  rw [daysBeforeYear_succ (yearOfDay_pos number), ← monthLengths_foldr] at hhigh
  have hwithin : number - daysBeforeYear (yearOfDay number) <
      (monthLengths (yearOfDay number)).foldr (· + ·) 0 := by omega
  have hbounds := monthOfDay_bounds hwithin
  rw [← hfound] at hbounds
  obtain ⟨⟨hfirst, hlast⟩, hday, hlength⟩ := hbounds
  refine ⟨⟨hfirst, hlast⟩, hday, ?_⟩
  obtain ⟨before, hbefore⟩ := Nat.exists_eq_add_of_le' hfirst
  rw [hbefore] at hlength ⊢
  exact hlength

theorem Instant.civil_valid (t : Instant) : t.civil.Valid := by
  have hnumber : t.micros / 1000000 / 86400 < daysBeforeYear (lastYear + 1) := by
    have hrange := t.inRange
    omega
  obtain ⟨hmonth, hday⟩ := monthOfDay_monthLength (t.micros / 1000000 / 86400) rfl rfl
  refine ⟨⟨yearOfDay_pos _, yearOfDay_le_lastYear hnumber⟩, hmonth, hday, ?_, ?_, ?_, ?_⟩
  · exact Nat.mod_lt _ (by decide)
  · exact Nat.mod_lt _ (by decide)
  · exact Nat.mod_lt _ (by decide)
  · exact Nat.mod_lt _ (by decide)

end NodeHistory.Time

import NodeHistory.Proofs.Date.Escaping

/-!
What comes of spelled moments that do not leave the years on the way to the zero meridian, as far as
the reader reads them as spelled: the clock's reading is moved by the offset, and the stamp shows
the text without the blanks around it.
Main statement: whatever the spelling, a written moment gives the stamp of what it denotes, so that
stamps that are read stand in the order of what was written.
-/

namespace NodeHistory.Stamp

open Text Time Date

variable {dates : Reader}

/-- What a clock shows is moved by its offset. -/
theorem denotes_found {shown t : Instant} {zone : ZoneMark}
    (ht : (t.micros : Int) = shown.micros - zone.secondsAhead * 1000000) :
    Denotes (zone.found shown) t := by
  have hzoned : Denotes (.zoned shown zone.secondsAhead) t := .zoned zone.secondsAhead_natAbs_lt ht
  cases zone with
  | absent =>
      have hlevel : ZoneMark.absent.secondsAhead = 0 := rfl
      obtain rfl : shown = t := Instant.ext (by omega)
      exact .plain
  | zero => exact hzoned
  | offset behind minutes => exact hzoned

theorem ofJson?_written (hreads : dates.ReadsSpelled) {w : Written} {t : Instant}
    (ht : (t.micros : Int) = w.denoted) :
    ofJson? dates (.text w.raw) = .ok (some ⟨t, String.ofList w.text⟩) := by
  obtain ⟨shown, hshown, hmicros⟩ := w.exists_shown
  have hdenotes : Denotes (dates w.raw) t := by
    rw [hreads w shown hshown]
    apply denotes_found
    rw [ht, Spelling.denoted, hmicros]
  rw [ofJson?, ← w.trimmed_raw]
  exact (ofText?_eq_some_iff w.trimmed_raw_ne).mpr hdenotes

/-- The stamp has the moment that is denoted, which without an offset is the one that is spelled,
and shows the spelling. -/
structure Tells (stamp : Stamp) (s : Spelling) : Prop where
  time : (stamp.time.micros : Int) = s.denoted
  civil : s.zone.secondsAhead = 0 → stamp.time.civil = s.shown
  shown : stamp.shown = String.ofList s.text

theorem exists_ofJson?_written (hreads : dates.ReadsSpelled) (w : Written) (h : w.InYears) :
    ∃ stamp : Stamp, ofJson? dates (.text w.raw) = .ok (some stamp) ∧
      stamp.Tells w.toSpelling := by
  obtain ⟨hbegun, hended⟩ := h
  have hmicros : (w.denoted.toNat : Int) = w.denoted := Int.toNat_of_nonneg hbegun
  let t : Instant := ⟨w.denoted.toNat, by omega⟩
  refine ⟨⟨t, String.ofList w.text⟩, ofJson?_written hreads hmicros, hmicros, ?_, rfl⟩
  intro hzero
  have hcount : w.shown.micros = t.micros := by
    have hdenoted : w.denoted = w.shown.micros - w.zone.secondsAhead * 1000000 := rfl
    have htime : (t.micros : Int) = w.denoted := hmicros
    omega
  have hread := Civil.ofMicros_micros w.valid
  rw [hcount] at hread
  exact hread

/-- With a reader that reads moments as spelled, they give stamps of what they denote, whatever the
spelling, so that the stamps stand in the order of the moments at the zero meridian. -/
theorem written_moments_are_denoted (dates : Reader) (hreads : dates.ReadsSpelled)
    (first second : Written) (hfirst : first.InYears) (hsecond : second.InYears) :
    ∃ x y : Stamp, ofJson? dates (.text first.raw) = .ok (some x) ∧
      ofJson? dates (.text second.raw) = .ok (some y) ∧
      x.Tells first.toSpelling ∧ y.Tells second.toSpelling ∧
      (x.time < y.time ↔ first.denoted < second.denoted) ∧
      (x.time = y.time ↔ first.denoted = second.denoted) := by
  obtain ⟨x, hx, htells⟩ := exists_ofJson?_written hreads first hfirst
  obtain ⟨y, hy, htells'⟩ := exists_ofJson?_written hreads second hsecond
  refine ⟨x, y, hx, hy, htells, htells', ?_, ?_⟩
  · rw [← htells.time, ← htells'.time, Instant.lt_def, Int.ofNat_lt]
  · rw [← htells.time, ← htells'.time, Int.ofNat_inj]
    exact ⟨congrArg Instant.micros, Instant.ext⟩

def leapEvening : Written where
  shown := ⟨2024, 2, 29, 23, 30, 0, 500000⟩
  valid := by decide
  between := .letter
  fractional := true
  whole := nofun
  zone := .offset true 330
  lead := [' ']
  trail := ['\n']
  lead_blank := List.forall_mem_singleton.mpr rfl
  trail_blank := List.forall_mem_singleton.mpr rfl

def marchMorning : Spelling where
  shown := ⟨2024, 3, 1, 5, 0, 0, 0⟩
  valid := by decide
  between := .blank
  fractional := false
  whole := fun _ => rfl
  zone := .zero

/-- The evening of a leap day behind the zero meridian is the next morning there. -/
theorem march_morning_before_leap_evening :
    let dates := reader ⟨Instant.epoch, by decide⟩
    dates.ReadsSpelled ∧ ∃ x y : Stamp,
      ofJson? dates (.text "2024-03-01 05:00:00Z") = .ok (some x) ∧
        ofJson? dates (.text " 2024-02-29T23:30:00.500000-05:30\n") = .ok (some y) ∧
        x.time < y.time ∧ y.shown = "2024-02-29T23:30:00.500000-05:30" := by
  intro dates
  have hreads : dates.ReadsSpelled := reader_readsSpelled _
  have hmorning : marchMorning.bare.InYears := Spelling.inYears_of_level rfl
  have hevening : leapEvening.InYears := ⟨by decide, by decide⟩
  have hearlier : marchMorning.bare.denoted < leapEvening.denoted := by decide
  have hfirst : marchMorning.bare.raw = "2024-03-01 05:00:00Z" := rfl
  have hsecond : leapEvening.raw = " 2024-02-29T23:30:00.500000-05:30\n" := rfl
  have htext : String.ofList leapEvening.text = "2024-02-29T23:30:00.500000-05:30" := rfl
  obtain ⟨x, y, hx, hy, -, htells, horder, -⟩ :=
    written_moments_are_denoted dates hreads marchMorning.bare leapEvening hmorning hevening
  rw [hfirst] at hx
  rw [hsecond] at hy
  exact ⟨hreads, x, y, hx, hy, horder.mpr hearlier, htells.shown.trans htext⟩

end NodeHistory.Stamp

import NodeHistory.Proofs.Date.Reading
import NodeHistory.Record

/-!
Date texts whose reading fails with an error, by what the reader finds in them. It may fail in a way
of its own; or it finds a clock whose offset is as long as a day; or a moment at the edge of the
calendar is moved out of it on the way to the zero meridian. Main statement: every other value that
stands for a date is read as no stamp or as one in the years 1 to 9999, each failing text gives the
error of the way it fails in, and a text in which a moment is found gives the stamp of that moment.
-/

namespace NodeHistory.Date

open Time

variable {shown t : Instant} {ahead : Int} {found : Found} {e : DateError}

theorem ofMicros?_eq_some_iff {micros : Int} :
    Instant.ofMicros? micros = some t ↔ (t.micros : Int) = micros := by
  constructor
  · intro hmade
    unfold Instant.ofMicros? at hmade
    split at hmade
    next hrange =>
      cases hmade
      exact Int.toNat_of_nonneg hrange.1
    next => cases hmade
  · rintro rfl
    exact Instant.ofMicros?_micros t

theorem addSeconds?_neg_eq_some_iff :
    shown.addSeconds? (-ahead) = some t ↔ (t.micros : Int) = shown.micros - ahead * 1000000 := by
  have hmicros : (shown.micros : Int) + -ahead * 1000000 = shown.micros - ahead * 1000000 := by
    omega
  rw [Instant.addSeconds?, hmicros, ofMicros?_eq_some_iff]

theorem addSeconds?_neg_eq_none_iff : shown.addSeconds? (-ahead) = none ↔
    ∀ t : Instant, (t.micros : Int) ≠ shown.micros - ahead * 1000000 := by
  simp only [Option.eq_none_iff_forall_ne_some, ne_eq, addSeconds?_neg_eq_some_iff]

/-- The three ways in which a reading fails with an error: the reader itself does so, an offset is
as long as a day, or the years 1 to 9999 are left. -/
inductive Escapes : Found → DateError → Prop
  | unread {reason : String} : Escapes (.failed reason) (.unread reason)
  | offsetTooLarge {shown : Instant} {ahead : Int} (day : 86400 ≤ ahead.natAbs) :
      Escapes (.zoned shown ahead) .offsetTooLarge
  | outOfYears {shown : Instant} {ahead : Int} (withinDay : ahead.natAbs < 86400)
      (outside : ∀ t : Instant, (t.micros : Int) ≠ shown.micros - ahead * 1000000) :
      Escapes (.zoned shown ahead) .outOfYears

/-- What is found tells a moment: as it stands, or moved by an offset shorter than a day. -/
inductive Denotes : Found → Instant → Prop
  | plain {t : Instant} : Denotes (.plain t) t
  | zoned {shown t : Instant} {ahead : Int} (withinDay : ahead.natAbs < 86400)
      (moved : (t.micros : Int) = shown.micros - ahead * 1000000) : Denotes (.zoned shown ahead) t

theorem escapes_zoned_iff :
    Escapes (.zoned shown ahead) e ↔ 86400 ≤ ahead.natAbs ∧ e = .offsetTooLarge ∨
      ahead.natAbs < 86400 ∧ shown.addSeconds? (-ahead) = none ∧ e = .outOfYears := by
  rw [addSeconds?_neg_eq_none_iff]
  constructor
  · intro hescapes
    cases hescapes with
    | offsetTooLarge hday => exact .inl ⟨hday, rfl⟩
    | outOfYears hwithin houtside => exact .inr ⟨hwithin, houtside, rfl⟩
  · rintro (⟨hday, rfl⟩ | ⟨hwithin, houtside, rfl⟩)
    · exact .offsetTooLarge hday
    · exact .outOfYears hwithin houtside

theorem denotes_zoned_iff : Denotes (.zoned shown ahead) t ↔
    ahead.natAbs < 86400 ∧ shown.addSeconds? (-ahead) = some t := by
  rw [addSeconds?_neg_eq_some_iff]
  constructor
  · intro hdenotes
    cases hdenotes with
    | zoned hwithin hmoved => exact ⟨hwithin, hmoved⟩
  · rintro ⟨hwithin, hmoved⟩
    exact .zoned hwithin hmoved

theorem Found.moment?_eq_error_iff : found.moment? = .error e ↔ Escapes found e := by
  cases found with
  | plain shown => exact iff_of_false nofun nofun
  | refused => exact iff_of_false nofun nofun
  | failed reason =>
    constructor
    · intro hfails
      cases hfails
      exact .unread
    · intro hescapes
      cases hescapes
      rfl
  | zoned shown ahead =>
    rw [escapes_zoned_iff, Found.moment?]
    by_cases hday : 86400 ≤ ahead.natAbs
    · simp [hday, Nat.not_lt_of_le hday, eq_comm]
    · rw [if_neg hday]
      cases hmoved : shown.addSeconds? (-ahead) with
      | none => simp [Nat.lt_of_not_le hday, hday, eq_comm]
      | some t => simp [hday]

theorem Found.moment?_eq_some_iff : found.moment? = .ok (some t) ↔ Denotes found t := by
  cases found with
  | plain shown =>
    constructor
    · intro hread
      cases hread
      exact .plain
    · intro hdenotes
      cases hdenotes
      rfl
  | refused => exact iff_of_false nofun nofun
  | failed reason => exact iff_of_false nofun nofun
  | zoned shown ahead =>
    rw [denotes_zoned_iff, Found.moment?]
    by_cases hday : 86400 ≤ ahead.natAbs
    · simp [hday, Nat.not_lt_of_le hday]
    · rw [if_neg hday]
      cases hmoved : shown.addSeconds? (-ahead) <;> simp [Nat.lt_of_not_le hday]

end NodeHistory.Date

namespace NodeHistory.Stamp

open Text Time Date

variable {dates : Reader}

theorem ofText?_eq_error_iff {text : String} {e : DateError} :
    ofText? dates text = .error e ↔ trimmed text ≠ "" ∧ Escapes (dates text) e := by
  rw [← Found.moment?_eq_error_iff]
  unfold ofText?
  by_cases hblank : trimmed text = ""
  · simp [hblank]
  · cases (dates text).moment? <;> simp [hblank, Except.map]

theorem ofJson?_eq_error_iff {value : Json} {e : DateError} :
    ofJson? dates value = .error e ↔
      ∃ text, value = .text text ∧ trimmed text ≠ "" ∧ Escapes (dates text) e := by
  cases value <;> simp [ofJson?, ofText?_eq_error_iff]

theorem ofText?_eq_some_iff {text : String} {t : Instant} (hfilled : trimmed text ≠ "") :
    ofText? dates text = .ok (some ⟨t, trimmed text⟩) ↔ Denotes (dates text) t := by
  rw [← Found.moment?_eq_some_iff, ofText?, if_neg hfilled]
  cases hmoment : (dates text).moment? with
  | error e => simp [Except.map]
  | ok t? => cases t? <;> simp [Except.map]

/-- Whatever value stands for a date, it is read as no stamp or as one in the years 1 to 9999,
unless it is a text in which something is found that escapes, and then the error is of that kind. A
text that is not blank is read as a moment just if what is found in it denotes that moment. -/
theorem read_iff_not_escaping (dates : Reader) (value : Json) :
    ((∃ stamp?, ofJson? dates value = .ok stamp? ∧ ∀ stamp ∈ stamp?, stamp.time.civil.Valid) ↔
      ∀ text e, value = .text text → trimmed text ≠ "" → ¬ Escapes (dates text) e) ∧
    (∀ e, ofJson? dates value = .error e ↔
      ∃ text, value = .text text ∧ trimmed text ≠ "" ∧ Escapes (dates text) e) ∧
    ∀ text t, value = .text text → trimmed text ≠ "" →
      (ofJson? dates value = .ok (some ⟨t, trimmed text⟩) ↔ Denotes (dates text) t) := by
  refine ⟨?_, fun e => ofJson?_eq_error_iff, ?_⟩
  · constructor
    · rintro ⟨stamp?, hread, -⟩ text e hvalue hfilled hescapes
      have hfails : ofJson? dates value = .error e :=
        ofJson?_eq_error_iff.mpr ⟨text, hvalue, hfilled, hescapes⟩
      rw [hread] at hfails
      cases hfails
    · intro hsafe
      cases hread : ofJson? dates value with
      | ok stamp? => exact ⟨stamp?, rfl, fun stamp _ => stamp.time.civil_valid⟩
      | error e =>
        obtain ⟨text, hvalue, hfilled, hescapes⟩ := ofJson?_eq_error_iff.mp hread
        exact absurd hescapes (hsafe text e hvalue hfilled)
  · rintro text t rfl hfilled
    rw [ofJson?]
    exact ofText?_eq_some_iff hfilled

/-- What the program's reader finds can escape in each of the three ways. -/
example :
    let dates := reader ⟨Instant.epoch, by decide⟩
    (["10:111111111111111111111111111111", "2024-03-01 10:00 -24:00",
      "0001-01-01 00:00 +00:01"].map fun text =>
        match ofText? dates text with
        | .error e => e.text
        | .ok _ => "") =
      ["[<class 'decimal.DivisionImpossible'>]", DateError.offsetTooLarge.text,
        DateError.outOfYears.text] := by
  decide +kernel

/-- However dates are read, if only moments are read as spelled, one that is spelled outside the
years 1 to 9999 of the zero meridian is an error. -/
theorem ofJson?_outside (hreads : dates.ReadsSpelled) {w : Written} (hout : ¬ w.InYears) :
    ofJson? dates (.text w.raw) = .error .outOfYears := by
  obtain ⟨shown, hshown, hmicros⟩ := w.exists_shown
  have houtside : ∀ t : Instant,
      (t.micros : Int) ≠ shown.micros - w.zone.secondsAhead * 1000000 := by
    intro t ht
    have hlt := t.inRange
    have hdenoted : w.denoted = w.shown.micros - w.zone.secondsAhead * 1000000 := rfl
    exact hout ⟨by omega, by omega⟩
  have hfound : dates w.raw = .zoned shown w.zone.secondsAhead := by
    rw [hreads w shown hshown]
    cases hzone : w.zone with
    | absent => exact absurd (Spelling.inYears_of_level (by rw [hzone]; rfl)) hout
    | zero => rfl
    | offset behind minutes => rfl
  refine ofJson?_eq_error_iff.mpr ⟨w.raw, rfl, w.trimmed_raw_ne, ?_⟩
  rw [hfound]
  exact .outOfYears w.zone.secondsAhead_natAbs_lt houtside

/-- Midnight of the first day on a clock five hours ahead. -/
def firstMidnight : Spelling where
  shown := ⟨1, 1, 1, 0, 0, 0, 0⟩
  valid := by decide
  between := .letter
  fractional := false
  whole := fun _ => rfl
  zone := .offset false ⟨300, by decide⟩

/-- What a clock five hours ahead shows at the start of year 1 is before that year at the zero
meridian. -/
theorem not_every_text_read : ¬ ∀ dates : Reader, dates.ReadsSpelled →
    ∀ value : Json, ∃ stamp?, ofJson? dates value = .ok stamp? ∧
      ∀ stamp ∈ stamp?, stamp.time.civil.Valid := by
  intro hall
  let dates := reader ⟨Instant.epoch, by decide⟩
  have hreads : dates.ReadsSpelled := reader_readsSpelled _
  obtain ⟨stamp?, hread, -⟩ := hall dates hreads (.text "0001-01-01T00:00:00+05:00")
  have hraw : firstMidnight.bare.raw = "0001-01-01T00:00:00+05:00" := rfl
  have hout : ¬ firstMidnight.bare.InYears := fun hyears => absurd hyears.1 (by decide)
  rw [← hraw, ofJson?_outside hreads hout] at hread
  cases hread

end NodeHistory.Stamp

import NodeHistory.Date.Found
import NodeHistory.Proofs.Date.Figures
import NodeHistory.Proofs.Time.Reckoning

/-!
Moments as they are spelled in a log: date and clock, with or without a fraction, and the offset of
the clock that shows them. A reader reads them as spelled if it finds the clock's reading in each,
with the offset that is told.
-/

namespace NodeHistory.Date

open Text Time

/-! ### Spelled moments -/

/-- What stands between the date and the clock. -/
inductive Between where
  | letter
  | blank
deriving DecidableEq, Repr

def Between.char : Between → Char
  | letter => 'T'
  | blank => ' '

/-- What a text says of the clock's zone: nothing, that it is the zero meridian, or by how many
minutes, less than a day, the clock is behind that meridian or ahead of it. -/
inductive ZoneMark where
  | absent
  | zero
  | offset (behind : Bool) (minutes : Fin 1440)
deriving DecidableEq, Repr

namespace ZoneMark

def sign (behind : Bool) : Char := if behind then '-' else '+'

def text : ZoneMark → List Char
  | absent => []
  | zero => ['Z']
  | offset behind minutes =>
    sign behind :: fixedDigits 2 (minutes / 60) ++ ':' :: fixedDigits 2 (minutes % 60)

/-- By how many seconds the clock is ahead of the zero meridian. -/
def secondsAhead : ZoneMark → Int
  | absent | zero => 0
  | offset behind minutes => if behind then -(minutes * 60) else minutes * 60

theorem secondsAhead_natAbs_lt (zone : ZoneMark) : zone.secondsAhead.natAbs < 86400 := by
  cases zone with
  | absent | zero => simp [secondsAhead]
  | offset behind minutes =>
      have hminutes := minutes.isLt
      cases behind
      · simp [secondsAhead]
        omega
      · simp [secondsAhead]
        omega

end ZoneMark

/-- A calendar date and clock as they are shown, with the choices that are made in writing them.
The fraction may be left out where it is zero. -/
structure Spelling where
  shown : Civil
  valid : shown.Valid
  between : Between
  fractional : Bool
  whole : fractional = false → shown.micro = 0
  zone : ZoneMark

namespace Spelling

variable (s : Spelling)

def secondText : List Char :=
  fixedDigits 2 s.shown.second ++
    if s.fractional then '.' :: fixedDigits 6 s.shown.micro else []

def text : List Char :=
  s.shown.dateText ++ s.between.char :: (fixedDigits 2 s.shown.hour ++
    ':' :: fixedDigits 2 s.shown.minute ++ ':' :: s.secondText) ++ s.zone.text

/-- Microseconds from the start of year 1 at the zero meridian to the moment at which the clock
shows what is spelled. -/
def denoted : Int := s.shown.micros - s.zone.secondsAhead * 1000000

/-- The moment is within the years 1 to 9999 at the zero meridian too. -/
def InYears : Prop :=
  0 ≤ s.denoted ∧ s.denoted < (daysBeforeYear (lastYear + 1) * 86400 * 1000000 : Nat)

/-- Without an offset the moment is the one that is shown. -/
theorem inYears_of_level {s : Spelling} (h : s.zone.secondsAhead = 0) : s.InYears := by
  have hrange := s.valid.inRange
  have hdenoted : s.denoted = s.shown.micros := by simp [denoted, h]
  unfold InYears
  omega

/-- There is one moment that the clock shows so. -/
theorem exists_shown (s : Spelling) :
    ∃ shown : Instant, shown.civil = s.shown ∧ shown.micros = s.shown.micros := by
  obtain ⟨shown, hshown, -⟩ := s.valid.existsUnique_instant
  refine ⟨shown, hshown, ?_⟩
  rw [← hshown]
  exact (Civil.micros_ofMicros shown.micros).symm

end Spelling

/-- A spelled moment with blanks around it. -/
structure Written extends Spelling where
  lead : List Char
  trail : List Char
  lead_blank : ∀ c ∈ lead, isBlank c = true
  trail_blank : ∀ c ∈ trail, isBlank c = true

def Written.raw (w : Written) : String := String.ofList (w.lead ++ w.text ++ w.trail)

def Spelling.bare (s : Spelling) : Written where
  toSpelling := s
  lead := []
  trail := []
  lead_blank := nofun
  trail_blank := nofun

/-- A moment on a clock, with the offset of the clock where its zone is told. -/
def ZoneMark.found (shown : Instant) : ZoneMark → Found
  | absent => .plain shown
  | zero => .zoned shown 0
  | offset behind minutes => .zoned shown (offset behind minutes).secondsAhead

/-- The reader finds in a spelled moment what the clock shows, and its offset where one is told. -/
def Reader.ReadsSpelled (dates : Reader) : Prop :=
  ∀ (w : Written) (shown : Instant), shown.civil = w.shown → dates w.raw = w.zone.found shown

/-! ### The blanks around a spelled moment -/

namespace Spelling

variable {s : Spelling}

theorem of_mem_head?_text {c : Char} (hc : c ∈ s.text.head?) : c.isDigit = true := by
  have hyear : IsFigures (fixedDigits 4 s.shown.year) := isFigures_fixedDigits (by omega) _
  simp only [text, Civil.dateText, List.append_assoc] at hc
  exact hyear.of_mem_head? hc

theorem exists_secondText_eq (s : Spelling) :
    ∃ front row, s.secondText = front ++ row ∧ IsFigures row := by
  unfold secondText
  cases s.fractional with
  | false =>
      refine ⟨[], fixedDigits 2 s.shown.second, ?_, isFigures_fixedDigits (by omega) _⟩
      exact List.append_nil _
  | true =>
      refine ⟨fixedDigits 2 s.shown.second ++ ['.'], fixedDigits 6 s.shown.micro, ?_,
        isFigures_fixedDigits (by omega) _⟩
      exact List.append_cons _ '.' _

/-- A spelled moment ends in figures or in the letter of its zone. -/
theorem of_mem_getLast?_text {c : Char} (hc : c ∈ s.text.getLast?) : isBlank c = false := by
  obtain ⟨front, row, hsecond, hrow⟩ := s.exists_secondText_eq
  cases hzone : s.zone with
  | absent =>
      have htext : s.text = (s.shown.dateText ++ s.between.char :: (fixedDigits 2 s.shown.hour ++
          ':' :: fixedDigits 2 s.shown.minute ++ ':' :: front)) ++ row := by
        simp [text, hzone, hsecond, ZoneMark.text]
      rw [htext] at hc
      exact not_isBlank_of_figure (hrow.of_mem_getLast? hc)
  | zero =>
      rw [text, hzone, ZoneMark.text, List.getLast?_concat] at hc
      obtain rfl := Option.some.inj hc
      decide
  | offset behind minutes =>
      have hminutes : IsFigures (fixedDigits 2 (minutes % 60)) :=
        isFigures_fixedDigits (by omega) _
      rw [text, hzone, ZoneMark.text, ← List.append_assoc, List.append_cons] at hc
      exact not_isBlank_of_figure (hminutes.of_mem_getLast? hc)

variable {lead trail : List Char}

theorem text_ne_nil : s.text ≠ [] := by
  simp [text]

theorem trim_text (hlead : ∀ c ∈ lead, isBlank c = true)
    (htrail : ∀ c ∈ trail, isBlank c = true) : trim (lead ++ s.text ++ trail) = s.text := by
  have hfirst : ∀ c ∈ s.text.head?, isBlank c = false :=
    fun c hc => not_isBlank_of_figure (of_mem_head?_text hc)
  have hlast : ∀ c ∈ s.text.getLast?, isBlank c = false := fun c => of_mem_getLast?_text
  exact trim_surrounded text_ne_nil hlead htrail hfirst hlast

end Spelling

/-- Without the blanks around it a spelled moment is what a stamp shows of it. -/
theorem Written.trimmed_raw (w : Written) : trimmed w.raw = String.ofList w.text := by
  rw [trimmed, Written.raw, String.toList_ofList, Spelling.trim_text w.lead_blank w.trail_blank]

theorem Written.trimmed_raw_ne (w : Written) : trimmed w.raw ≠ "" := by
  rw [w.trimmed_raw]
  simpa using Spelling.text_ne_nil

end NodeHistory.Date

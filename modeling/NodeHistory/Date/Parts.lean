import NodeHistory.Date.DayFields
import NodeHistory.Time.Instant

/-!
The parts of a date that have been read so far, and what they come to in the end. Parts that a
text leaves open are taken from the start of the day on which it is read; without a day, one that
the month does not have becomes its last; a weekday without a day moves forward to that weekday.
-/

namespace NodeHistory.Date

/-- Why a text is not read: it is no date, or a clock value is too long to take its fraction. -/
inductive Halt where
  | unreadable
  | tooPrecise
deriving DecidableEq, Repr

structure Parts where
  days : DayFields := {}
  weekday : Option Nat := none
  hour : Option Nat := none
  minute : Option Nat := none
  second : Option Nat := none
  micro : Option Nat := none
  meridiem : Option Meridiem := none
  zone : Option Token := none
  /-- Seconds ahead of the zero meridian. -/
  offset : Option Int := none
  /-- A zone's name precedes the sign that comes next: `GMT+3` is three hours behind. -/
  signReversed : Bool := false
deriving DecidableEq

/-- A year of two digits is the one nearest to the present year. -/
def fullYear (today : Time.Civil) (year : Nat) (withCentury : Bool) : Nat :=
  if year < 100 ∧ !withCentury then
    let full := year + today.year / 100 * 100
    if today.year + 50 ≤ full then full - 100
    else if full < today.year - 50 then full + 100
    else full
  else year

/-- A zone as it takes effect: none, the zero meridian, or an offset other than zero. -/
inductive Zone where
  | unknown
  | zero
  | ahead (seconds : Int)
deriving DecidableEq, Repr

namespace Parts

def isEmpty (p : Parts) (day : DayParts) : Bool :=
  day = {} && p.weekday.isNone && p.hour.isNone && p.minute.isNone && p.second.isNone &&
    p.micro.isNone && p.meridiem.isNone && p.zone.isNone && p.offset.isNone

/-- A name of the zero meridian overrules an offset. -/
def zoneInEffect (p : Parts) : Zone :=
  if p.zone.any Token.isZeroZone then .zero
  else match p.offset with
    | none => .unknown
    | some seconds => if seconds = 0 then .zero else .ahead seconds

/-- The moment as the text's own clock shows it. -/
def localTime? (today : Time.Civil) (p : Parts) (parts : DayParts) : Option Time.Instant := do
  let year := (parts.year.map (fullYear today · p.days.withCentury)).getD today.year
  let month := parts.month.getD today.month
  let day := parts.day.getD (min today.day (Time.monthLength year month))
  let t ← Time.Instant.ofCivil? {
    year, month, day
    hour := p.hour.getD 0
    minute := p.minute.getD 0
    second := p.second.getD 0
    micro := p.micro.getD 0 }
  match p.weekday, parts.day with
  | some weekday, none =>
    let shown := Time.weekday (Time.dayNumber year month day)
    t.addSeconds? (((weekday + 7 - shown) % 7 : Nat) * 86400)
  | _, _ => some t

end Parts

end NodeHistory.Date

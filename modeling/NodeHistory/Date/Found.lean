import NodeHistory.Time.Instant

/-!
What a date text is found to be. How texts are read is left to a reader, which is given from
outside. It finds a moment as a clock shows it, with the offset of that clock where the text tells
one, or it refuses the text as no date, or it fails in a way of its own. A moment with an offset is
moved to the zero meridian; without one it is taken as it stands.
-/

namespace NodeHistory.Date

/-- Offsets are in seconds ahead of the zero meridian. -/
inductive Found where
  | plain (shown : Time.Instant)
  | zoned (shown : Time.Instant) (ahead : Int)
  | refused
  | failed (reason : String)
deriving DecidableEq

abbrev Reader := String → Found

/-- Why a text that is not refused still gives no moment. -/
inductive DateError where
  | unread (reason : String)
  | offsetTooLarge
  | outOfYears
deriving DecidableEq, Repr

def DateError.text : DateError → String
  | .unread reason => reason
  | .offsetTooLarge =>
    "offset must be a timedelta strictly between -timedelta(hours=24) and timedelta(hours=24)."
  | .outOfYears => "date value out of range"

/-- The moment in force at the zero meridian; `none` for a text that is refused. -/
def Found.moment? : Found → Except DateError (Option Time.Instant)
  | .plain shown => .ok (some shown)
  | .zoned shown ahead =>
    if 86400 ≤ ahead.natAbs then .error .offsetTooLarge
    else match shown.addSeconds? (-ahead) with
    | none => .error .outOfYears
    | some t => .ok (some t)
  | .refused => .ok none
  | .failed reason => .error (.unread reason)

end NodeHistory.Date

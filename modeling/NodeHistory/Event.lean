import NodeHistory.Provenance
import NodeHistory.Time.Text

/-!
Logged events. An event may carry a stamp, which is a moment and the text that it was read from;
only a stamped event of an authoritative file tells the node's clock.
-/

namespace NodeHistory

structure Stamp where
  time : Time.Instant
  shown : String := ""
deriving DecidableEq

/-- The stamp as it was read, or the written moment where the text is not known. -/
def Stamp.label (stamp : Stamp) : String :=
  if stamp.shown = "" then stamp.time.iso else stamp.shown

structure Event where
  stamp : Option Stamp := none
  provenance : Provenance := {}
  message : String := ""
  raw : String := ""
  pattern : String := ""
  count : Int := 1
deriving DecidableEq

namespace Event

def time? (e : Event) : Option Time.Instant := e.stamp.map (·.time)

def authoritative (e : Event) : Bool := e.provenance.authoritative

/-- The event's time if it is one that orders its node's history. -/
def clock? (e : Event) : Option Time.Instant := if e.authoritative then e.time? else none

/-- The same event, with one more repetition to its account. -/
def repeated (e : Event) : Event := { e with count := e.count + 1 }

def inheriting (e : Event) (earlier : Provenance) : Event :=
  { e with provenance := e.provenance.inherit earlier }

/-- One line on the event: when, the first thirty characters of the message, the file and the
number of repetitions. -/
def summary (e : Event) : String :=
  let label := (e.stamp.map Stamp.label).getD "-"
  "LogEvent(" ++ label ++ ", '" ++ String.ofList (e.message.toList.take 30) ++ "', file=" ++
    e.provenance.filePath ++ ", x" ++ toString e.count ++ ")"

theorem clock?_eq_some_iff {e : Event} {t : Time.Instant} :
    e.clock? = some t ↔ e.authoritative = true ∧ e.time? = some t := by
  simp [clock?]

@[simp] theorem time?_repeated (e : Event) : e.repeated.time? = e.time? := rfl

@[simp] theorem clock?_repeated (e : Event) : e.repeated.clock? = e.clock? := rfl

@[simp] theorem time?_inheriting (e : Event) (p : Provenance) :
    (e.inheriting p).time? = e.time? := rfl

@[simp] theorem clock?_inheriting (e : Event) (p : Provenance) :
    (e.inheriting p).clock? = e.clock? := rfl

end Event

end NodeHistory

import NodeHistory.Timeline.RepeatRule

/-!
The timeline of one segment: its events in the order in which they were logged, with repetitions
folded as they are added. A run of repetitions keeps two entries, the first occurrence, which
counts the later ones, and the latest occurrence, so that the end of the run is not lost. A rule
is asked only where two entries are stored, so a run at the very start folds from its third
event on.
-/

namespace NodeHistory

structure Timeline where
  events : List Event := []
  rule : RepeatRule := .samePattern

namespace Timeline

def isEmpty (t : Timeline) : Bool := t.events.isEmpty

def last? (t : Timeline) : Option Event := t.events.getLast?

/-- Another timeline over the given events, under the same rule. -/
def derive (t : Timeline) (events : List Event) : Timeline := { t with events }

def concat (t u : Timeline) : Timeline := t.derive (t.events ++ u.events)

/-- Appends an event, or folds it into the run that it repeats: the entry before the last counts
one more and the event takes the last place. -/
def add (t : Timeline) (event : Event) : Except Incomparable Timeline :=
  match t.events.reverse with
  | latest :: counted :: earlier => do
    if ← t.rule.repeats event counted latest then
      return t.derive (earlier.reverse ++ [counted.repeated, event])
    else
      return t.derive (t.events ++ [event])
  | _ => .ok (t.derive (t.events ++ [event]))

def addAll (t : Timeline) (events : List Event) : Except Incomparable Timeline :=
  events.foldlM add t

/-- The timeline of the given events, added one by one. -/
def folded (events : List Event) (rule : RepeatRule := .samePattern) :
    Except Incomparable Timeline :=
  addAll { rule } events

end Timeline

end NodeHistory

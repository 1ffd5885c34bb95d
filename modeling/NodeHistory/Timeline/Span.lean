import NodeHistory.Timeline.Basic

/-!
The span of a timeline, from its first to its last authoritative time, and the part of it that
lies after a moment. Both look at the events in stored order and presuppose no sorting.
-/

namespace NodeHistory

open Time

def Event.startOf (events : List Event) : Option Instant := events.findSome? Event.clock?

def Event.finishOf (events : List Event) : Option Instant := events.reverse.findSome? Event.clock?

/-- Stamped, and strictly later than the given moment. -/
def Event.isAfter (at? : Option Instant) (e : Event) : Bool :=
  e.time?.isSome && precedes at? e.time?

namespace Timeline

def start? (t : Timeline) : Option Instant := Event.startOf t.events

def finish? (t : Timeline) : Option Instant := Event.finishOf t.events

/-- What is left from the first event after the given moment on. Later events stay, whatever
their stamps. -/
def after (t : Timeline) (at? : Option Instant) : Timeline :=
  t.derive (t.events.dropWhile fun e => !e.isAfter at?)

end Timeline

end NodeHistory

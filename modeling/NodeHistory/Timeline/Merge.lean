import NodeHistory.Timeline.Span
import NodeHistory.Notice

/-!
Merging two timelines of one node. Rotated files and repeated collection yield segments that
follow one another, overlap or contain one another. Of two segments with the same start the one
that ends later is kept. Otherwise the one that starts earlier goes first: it is kept alone if it
reaches at least as far as the other, and else the other's part beyond it is appended, with the
identity known by then handed on to the very last event.
-/

namespace NodeHistory

open Time

/-- The first timeline kept as it is, the second kept as it is, or a new one. -/
inductive Merged where
  | first
  | second
  | joined (timeline : Timeline)

namespace Merged

def timeline (a b : Timeline) : Merged → Timeline
  | first => a
  | second => b
  | joined t => t

/-- The same answer to the timelines in the other order. -/
def swap : Merged → Merged
  | first => second
  | second => first
  | joined t => joined t

end Merged

/-- Hands a provenance on to the last of the events. -/
def Event.inheritLast (earlier : Provenance) : List Event → List Event
  | [] => []
  | [e] => [e.inheriting earlier]
  | e :: f :: rest => e :: inheritLast earlier (f :: rest)

namespace Timeline

def join (earlier later : Timeline) : Timeline :=
  match earlier.last? with
  | none => earlier.concat later
  | some e => earlier.derive (earlier.events ++ Event.inheritLast e.provenance later.events)

/-- Merges a timeline with one that does not start before it; neither is empty. -/
def reconcile (earlier later : Timeline) : Merged × List MergeNotice :=
  let start := earlier.start?
  let finish := earlier.finish?
  let laterStart := later.start?
  let laterFinish := later.finish?
  if start.isSome && start = laterStart then
    if precedes finish laterFinish then
      (.second, [.superseded start finish laterFinish])
    else (.first, [.keptOnEqualStart start finish])
  else if finish.isSome && !precedes finish laterFinish then
    (.first, [.contained start finish laterStart laterFinish])
  else if precedes laterStart finish then
    let rest := later.after finish
    (if rest.isEmpty then .first else .joined (earlier.join rest), [.overlap finish])
  else (.joined (earlier.join later), [])

def merged (a b : Timeline) : Merged × List MergeNotice :=
  if a.isEmpty then (.second, [])
  else if b.isEmpty then (.first, [])
  else if precedes b.start? a.start? then
    let (answer, notices) := reconcile b a
    (answer.swap, notices)
  else reconcile a b

def merge (a b : Timeline) : Timeline := (merged a b).1.timeline a b

end Timeline

end NodeHistory

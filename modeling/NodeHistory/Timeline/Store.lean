import NodeHistory.Timeline.Merge
import NodeHistory.Timeline.Slice

/-!
Timelines that are held by reference. The entries of a timeline are references to events, and
timelines may have entries in common: what slices, cuts, joins or merges others takes entries of
theirs over and copies no event, save the last one of a join, whose provenance changes. Adding an
event changes a stored timeline for all who hold it; it puts copies in the last places and writes
into no event. A merge that keeps one of its timelines answers with the reference it was given.

A shelf gives names to references. Several names may stand for one timeline.
-/

namespace NodeHistory

abbrev Ref := Nat

abbrev EventRef := Nat

/-- A timeline as it is stored. -/
structure Holding where
  entries : List EventRef
  rule : RepeatRule

/-- A reference is a position, and positions are never given up. -/
structure Store where
  events : List Event
  timelines : List Holding
  known : ∀ held ∈ timelines, ∀ entry ∈ held.entries, entry < events.length

/-- Which entries a new timeline has. It is under the rule of the timeline on the left, which is the
only one but in `concat`. -/
inductive Selection where
  | slice (left : Ref) (slice : Slice)
  | concat (left right : Ref)
  | derive (left : Ref) (entries : List EventRef)
  | cut (left : Ref) (at? : Option Time.Instant)

def Selection.left : Selection → Ref
  | slice left _ | concat left _ | derive left _ | cut left _ => left

namespace Store

def empty : Store := ⟨[], [], fun _ hheld => absurd hheld List.not_mem_nil⟩

def event? (s : Store) (entry : EventRef) : Option Event := s.events[entry]?

def read (s : Store) (entries : List EventRef) : List Event := entries.filterMap s.event?

def get? (s : Store) (ref : Ref) : Option Timeline :=
  s.timelines[ref]?.map fun held => { events := s.read held.entries, rule := held.rule }

/-- Stores new events. -/
def hold (s : Store) (events : List Event) : List EventRef × Store :=
  (List.range' s.events.length events.length,
    { s with
      events := s.events ++ events
      known := fun held hheld entry hentry => by
        rw [List.length_append]
        exact Nat.lt_add_right _ (s.known held hheld entry hentry) })

def give (s : Store) (event : Event) : EventRef × Store :=
  (s.events.length, (s.hold [event]).2)

/-- Stores a new timeline. -/
def put (s : Store) (held : Holding) (known : ∀ entry ∈ held.entries, entry < s.events.length) :
    Ref × Store :=
  (s.timelines.length,
    { s with
      timelines := s.timelines ++ [held]
      known := by simpa [or_imp, forall_and] using ⟨s.known, known⟩ })

/-- `none` for entries that the store does not hold. -/
def put? (s : Store) (held : Holding) : Option (Ref × Store) :=
  if known : ∀ entry ∈ held.entries, entry < s.events.length then some (s.put held known) else none

/-- Stores a timeline in another's place, likewise. -/
def set? (s : Store) (ref : Ref) (held : Holding) : Option Store :=
  if known : ∀ entry ∈ held.entries, entry < s.events.length then
    some { s with
      timelines := s.timelines.set ref held
      known := fun other hother =>
        (List.mem_or_eq_of_mem_set hother).elim (s.known other) fun h => h ▸ known }
  else none

/-- Stores a timeline of new events. -/
def alloc (s : Store) (t : Timeline) : Ref × Store :=
  (s.hold t.events).2.put ⟨(s.hold t.events).1, t.rule⟩ (by simp [hold])

/-- The entries of a stored timeline become some of those that it has and new events. -/
def rewrite (s : Store) (ref : Ref) (held : Holding) (kept : List EventRef) (events : List Event) :
    Option Store :=
  let (copies, s) := s.hold events
  s.set? ref { held with entries := kept ++ copies }

/-- `none` for references that the store does not hold; a refused event leaves the store as it
is. -/
def add (s : Store) (ref : Ref) (given : EventRef) : Option (Except Incomparable Store) := do
  let held ← s.timelines[ref]?
  let event ← s.event? given
  match held.entries.reverse with
  | last :: second :: earlier =>
    let latest ← s.event? last
    let counted ← s.event? second
    match held.rule.repeats event counted latest with
    | .error refusal => some (.error refusal)
    | .ok true => (s.rewrite ref held earlier.reverse [counted.repeated, event]).map .ok
    | .ok false => (s.rewrite ref held held.entries [event]).map .ok
  | _ => (s.rewrite ref held held.entries [event]).map .ok

def chosen? (s : Store) : Selection → Option (List EventRef)
  | .slice left slice => do
    let held ← s.timelines[left]?
    if slice.step = 0 then none
    return (slice.positions held.entries.length).filterMap fun k => held.entries[k]?
  | .concat left right => do
    let front ← s.timelines[left]?
    let back ← s.timelines[right]?
    return front.entries ++ back.entries
  | .derive _ entries => some entries
  | .cut left at? => do
    let held ← s.timelines[left]?
    return held.entries.dropWhile fun entry => !(s.event? entry).any (·.isAfter at?)

/-- `none` for references that the store does not hold and for steps of zero. -/
def select (s : Store) (selection : Selection) : Option (Ref × Store) := do
  let held ← s.timelines[selection.left]?
  let entries ← s.chosen? selection
  s.put? { held with entries }

/-- Appends to the entries of one timeline the last ones of another, as many as the joint timeline
has. The very last one is a new event. -/
def join (s : Store) (earlier later : Ref) (joint : Timeline) : Option (Ref × Store) := do
  let front ← s.timelines[earlier]?
  let back ← s.timelines[later]?
  let dropped := front.entries.length + back.entries.length - joint.events.length
  let (last, s) := s.hold joint.last?.toList
  s.put? { front with entries := (front.entries ++ back.entries.drop dropped).dropLast ++ last }

def merge (s : Store) (a b : Ref) : Option (Ref × Store × List MergeNotice) := do
  let first ← s.get? a
  let second ← s.get? b
  let (answer, notices) := first.merged second
  match answer with
  | .first => return (a, s, notices)
  | .second => return (b, s, notices)
  | .joined t =>
    let (earlier, later) := if Time.precedes second.start? first.start? then (b, a) else (a, b)
    let (ref, s) ← s.join earlier later t
    return (ref, s, notices)

end Store

inductive ShelfError where
  | unknown (name : String)
  | outOfRange
  /-- The number is too great for any position. -/
  | noPosition
  | zeroStep
  | refused (refusal : Incomparable)
deriving DecidableEq

def ShelfError.text : ShelfError → String
  | .unknown name => Text.quoted name
  | .outOfRange => "list index out of range"
  | .noPosition => "cannot fit 'int' into an index-sized integer"
  | .zeroStep => "slice step cannot be zero"
  | .refused refusal => refusal.text

structure Shelf where
  store : Store := .empty
  labels : List (String × Ref) := []

namespace Shelf

def find (shelf : Shelf) (name : String) : Except ShelfError (Ref × Timeline) :=
  match shelf.labels.lookup name with
  | none => .error (.unknown name)
  | some ref =>
    match shelf.store.get? ref with
    | none => .error (.unknown name)
    | some t => .ok (ref, t)

/-- The event of a timeline at a position. -/
def event (shelf : Shelf) (name : String) (position : Int) : Except ShelfError Event := do
  let (_, t) ← shelf.find name
  if !isPosition position then throw .noPosition
  match t.get? position with
  | none => throw .outOfRange
  | some e => return e

private def labelIn (name : String) (ref : Ref) : List (String × Ref) → List (String × Ref)
  | [] => [(name, ref)]
  | label :: labels =>
    if label.1 = name then (name, ref) :: labels else label :: labelIn name ref labels

def label (shelf : Shelf) (name : String) (ref : Ref) : Shelf :=
  { shelf with labels := labelIn name ref shelf.labels }

/-- The names of a reference in alphabetical order. -/
def holders (shelf : Shelf) (ref : Ref) : List String :=
  ((shelf.labels.filter (·.2 = ref)).map (·.1)).mergeSort fun a b => decide (a ≤ b)

/-- Adds an event as often as told, and stops at the first refusal with what was added till
then. -/
def add (shelf : Shelf) (name : String) (event : Event) (times : Nat) :
    Except ShelfError Timeline × Shelf :=
  match shelf.find name with
  | .error e => (.error e, shelf)
  | .ok (ref, _) =>
    let (given, store) := shelf.store.give event
    go ref given times { shelf with store }
where
  go (ref : Ref) (given : EventRef) : Nat → Shelf → Except ShelfError Timeline × Shelf
    | 0, shelf => ((shelf.find name).map (·.2), shelf)
    | times + 1, shelf =>
      match shelf.store.add ref given with
      | none => (.error (.unknown name), shelf)
      | some (.error refusal) => (.error (.refused refusal), shelf)
      | some (.ok store) => go ref given times { shelf with store }

/-- How a timeline on the shelf comes about. -/
inductive Making where
  | slice (source : String) (slice : Slice)
  | concat (left right : String)
  | derive (source : String) (events : List Event)
  | cut (source : String) (at? : Option Time.Instant)
  | merge (first second : String)
  | assign (source : String)

/-- What is made, and where; nothing is named yet. -/
def make (shelf : Shelf) : Making → Except ShelfError (Ref × Store × List MergeNotice)
  | .slice source slice => do
    let (ref, _) ← shelf.find source
    if slice.step = 0 then throw .zeroStep
    select source shelf.store (.slice ref slice)
  | .concat left right => do
    let (front, _) ← shelf.find left
    let (back, _) ← shelf.find right
    select left shelf.store (.concat front back)
  | .derive source events => do
    let (ref, _) ← shelf.find source
    let (entries, store) := shelf.store.hold events
    select source store (.derive ref entries)
  | .cut source at? => do
    let (ref, _) ← shelf.find source
    select source shelf.store (.cut ref at?)
  | .merge first second => do
    let (a, _) ← shelf.find first
    let (b, _) ← shelf.find second
    match shelf.store.merge a b with
    | none => throw (.unknown first)
    | some made => return made
  | .assign source => do
    let (ref, _) ← shelf.find source
    return (ref, shelf.store, [])
where
  select (source : String) (store : Store) (selection : Selection) :
      Except ShelfError (Ref × Store × List MergeNotice) :=
    match store.select selection with
    | none => .error (.unknown source)
    | some (ref, store) => .ok (ref, store, [])

end Shelf

end NodeHistory

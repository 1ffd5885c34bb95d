import NodeHistory.Time.Instant

/-!
What is known of names over time. An address or a hash may stand for different nodes as nodes
are rebuilt, so each sighting of a name counts from a moment on, and a question is always put at
a moment. Sightings are kept in the order of their moments; among equal moments the one
recorded later stands later and wins.
-/

namespace NodeHistory

open Time

inductive Identity where
  | address (text : String)
  | hash (text : String)
deriving DecidableEq, Repr

structure Sighting where
  name : String
  since : Option Instant := none
deriving DecidableEq

namespace Sighting

/-- Walks from the last of the kept sightings back past those that are strictly later. -/
def insertBack (s : Sighting) : List Sighting → List Sighting
  | [] => [s]
  | last :: earlier =>
    if precedes s.since last.since then last :: insertBack s earlier
    else s :: last :: earlier

/-- Places a sighting behind the last one that is not strictly later. -/
def insert (s : Sighting) (kept : List Sighting) : List Sighting :=
  (s.insertBack kept.reverse).reverse

/-- Walks the kept sightings up to the first one that is too late. -/
def nameAt (at? : Option Instant) (found? : Option String) : List Sighting → Option String
  | [] => found?
  | s :: later => if precedes at? s.since then found? else nameAt at? (some s.name) later

theorem insert_nil (s : Sighting) : s.insert [] = [s] := rfl

theorem insert_snoc (s : Sighting) (earlier : List Sighting) (last : Sighting) :
    s.insert (earlier ++ [last]) =
      if precedes s.since last.since then s.insert earlier ++ [last]
      else earlier ++ [last, s] := by
  simp only [insert, List.reverse_append, List.reverse_singleton, List.singleton_append, insertBack]
  split
  · rw [List.reverse_cons]
  · simp

end Sighting

structure NameBook where
  pages : List (Identity × List Sighting) := []

namespace NameBook

def empty : NameBook := {}

def sightings (book : NameBook) (identity : Identity) : List Sighting :=
  (book.pages.lookup identity).getD []

private def recordOn (identity : Identity) (s : Sighting) :
    List (Identity × List Sighting) → List (Identity × List Sighting)
  | [] => [(identity, [s])]
  | page :: pages =>
    if page.1 = identity then (identity, s.insert page.2) :: pages
    else page :: recordOn identity s pages

def record (book : NameBook) (identity : Identity) (s : Sighting) : NameBook :=
  ⟨recordOn identity s book.pages⟩

/-- The name last sighted at or before the given moment. -/
def name? (book : NameBook) (identity : Identity) (at? : Option Instant) : Option String :=
  Sighting.nameAt at? none (book.sightings identity)

@[simp] theorem sightings_empty (identity : Identity) : empty.sightings identity = [] := rfl

private theorem lookup_recordOn (identity other : Identity) (s : Sighting)
    (pages : List (Identity × List Sighting)) :
    ((recordOn identity s pages).lookup other).getD [] =
      if other = identity then s.insert ((pages.lookup identity).getD [])
      else (pages.lookup other).getD [] := by
  induction pages with
  | nil =>
    by_cases same : other = identity
    · subst same
      simp [recordOn, Sighting.insert_nil]
    · have differs : (other == identity) = false := by simpa using same
      simp [recordOn, same, List.lookup_cons, differs]
  | cons page pages ih =>
    obtain ⟨key, page⟩ := page
    simp only [recordOn]
    by_cases here : key = identity
    · subst here
      by_cases same : other = key
      · subst same
        simp
      · have differs : (other == key) = false := by simpa using same
        simp [same, List.lookup_cons, differs]
    · have keyDiffers : (identity == key) = false := by simpa using fun h => here h.symm
      by_cases same : other = key
      · subst same
        simp [here]
      · have differs : (other == key) = false := by simpa using same
        simp only [if_neg here, List.lookup_cons, differs, keyDiffers]
        exact ih

theorem sightings_record (book : NameBook) (identity other : Identity) (s : Sighting) :
    (book.record identity s).sightings other =
      if other = identity then s.insert (book.sightings identity) else book.sightings other :=
  lookup_recordOn identity other s book.pages

end NameBook

end NodeHistory

import NodeHistory.Proofs.Node.Redelivery
import NodeHistory.Proofs.Node.Sightings

/-!
Knowledge that comes too late for a segment. A segment's node is looked up at the segment's last
clock, and a sighting that counts from a later moment on has no say in the answer, wherever it was
recorded among the others. So a book of names may be told of later sightings before any segment is
delivered. Main statement: with and without them all deliveries by name answer with the same nodes
and store the same timelines.
-/

namespace NodeHistory

open Time

namespace Sighting

/-- A sighting that does not count at the moment could as well not have been recorded. -/
theorem inForce?_arranged_filter (at? : Option Instant) (recorded : List Sighting) :
    inForce? at? (arranged (recorded.filter fun s => !precedes at? s.since)) =
      inForce? at? (arranged recorded) := by
  induction recorded using List.reverseRecOn with
  | nil => rfl
  | append_singleton recorded s ih =>
      rw [List.filter_append, arranged_snoc, inForce?_insert (inOrder_arranged recorded)]
      by_cases hlate : precedes at? s.since = true
      · have hdropped : [s].filter (fun s => !precedes at? s.since) = [] := by simp [hlate]
        rw [hdropped, List.append_nil, if_pos hlate, ih]
      · have hkept : [s].filter (fun s => !precedes at? s.since) = [s] := by simp [hlate]
        rw [hkept, arranged_snoc, inForce?_insert (inOrder_arranged _), if_neg hlate,
          if_neg hlate, ih]

end Sighting

namespace NameBook

open Sighting

/-- What is recorded of the sightings that count at a moment. -/
def upTo (at? : Option Instant) (record : List (Identity × Sighting)) :
    List (Identity × Sighting) :=
  record.filter fun entry => !precedes at? entry.2.since

theorem sightingsOf_upTo (identity : Identity) (at? : Option Instant)
    (record : List (Identity × Sighting)) :
    sightingsOf identity (upTo at? record) =
      (sightingsOf identity record).filter fun s => !precedes at? s.since := by
  unfold sightingsOf upTo
  rw [List.filter_filter, List.filter_map, List.filter_filter]
  simp only [Function.comp_def, Bool.and_comm]

/-- A question put at a moment is answered by what counts then. -/
theorem name?_upTo (record : List (Identity × Sighting)) (identity : Identity)
    (at? : Option Instant) :
    (recorded (upTo at? record)).name? identity at? = (recorded record).name? identity at? := by
  unfold name?
  rw [sightings_recorded, sightings_recorded, sightingsOf_upTo, nameAt_eq, nameAt_eq,
    inForce?_arranged_filter]

/-- The second record has all entries of the first in their order, and any number of entries more
that count from a moment after all of the given ones on. -/
inductive AddsLater (moments : List (Option Instant)) :
    List (Identity × Sighting) → List (Identity × Sighting) → Prop
  | nil : AddsLater moments [] []
  | shared {entry : Identity × Sighting} {record more : List (Identity × Sighting)}
      (rest : AddsLater moments record more) :
      AddsLater moments (entry :: record) (entry :: more)
  | later {identity : Identity} {name : String} {since : Instant}
      {record more : List (Identity × Sighting)}
      (after : ∀ moment ∈ moments, rank moment < since) (rest : AddsLater moments record more) :
      AddsLater moments record ((identity, ⟨name, some since⟩) :: more)

variable {moments : List (Option Instant)} {record more : List (Identity × Sighting)}
  {at? : Option Instant}

theorem AddsLater.upTo_eq (h : AddsLater moments record more) (hmoment : at? ∈ moments) :
    upTo at? more = upTo at? record := by
  induction h with
  | nil => rfl
  | @shared entry _ _ _ ih =>
      unfold upTo at ih ⊢
      rw [List.filter_cons, List.filter_cons, ih]
  | @later identity name since _ _ hafter _ ih =>
      have hlate : precedes at? (some since) = true := precedes_iff.mpr (hafter at? hmoment)
      unfold upTo at ih ⊢
      rw [List.filter_cons_of_neg (by simp [hlate]), ih]

theorem AddsLater.name?_eq (h : AddsLater moments record more) (hmoment : at? ∈ moments)
    (identity : Identity) :
    (recorded more).name? identity at? = (recorded record).name? identity at? := by
  rw [← name?_upTo more, h.upTo_eq hmoment, name?_upTo]

end NameBook

/-- Of a book of names, the name of a node takes the answers that it gives at one moment. -/
theorem Provenance.nodeName_congr {book other : NameBook} {at? : Option Instant}
    (h : ∀ identity, book.name? identity at? = other.name? identity at?) (p : Provenance) :
    p.nodeName at? (some book) = p.nodeName at? (some other) := by
  simp only [nodeName, addressName, hashName?, Option.bind_some, h]

namespace Registry

/-- The same nodes, with another book of names. -/
def withBook (r : Registry) (book? : Option NameBook) : Registry := { r with book? }

/-- The two books give the segment's node one name. -/
def NamesAlike (book? other? : Option NameBook) (segment : Timeline) : Prop :=
  ∀ e ∈ segment.last?,
    e.provenance.nodeName segment.finish? book? = e.provenance.nodeName segment.finish? other?

/-- The nodes that the calls of a run answer with, one after another. -/
def answers (r : Registry) : List Call → List (Option String)
  | [] => []
  | call :: calls => call.node? r :: answers (call.apply r) calls

/-- A delivery takes nothing from the book but the name of the segment's node. -/
theorem delivery_withBook {r : Registry} {other? : Option NameBook} {segment : Timeline}
    (h : NamesAlike r.book? other? segment) :
    (Call.byName segment).node? (r.withBook other?) = (Call.byName segment).node? r ∧
      (Call.byName segment).apply (r.withBook other?) =
        ((Call.byName segment).apply r).withBook other? := by
  simp only [Call.node?, Call.apply, node?_mergeByName]
  cases hlast : segment.last? with
  | none =>
      rw [mergeByName_of_last?_eq_none hlast, mergeByName_of_last?_eq_none hlast]
      exact ⟨rfl, rfl⟩
  | some e =>
      have hname : e.provenance.nodeName segment.finish? r.book? =
          e.provenance.nodeName segment.finish? (r.withBook other?).book? := h e hlast
      rw [mergeByName_of_last? hlast, mergeByName_of_last? hlast, Option.map_some,
        Option.map_some, ← hname]
      exact ⟨rfl, rfl⟩

theorem deliveries_withBook {r : Registry} {other? : Option NameBook} {segments : List Timeline}
    (h : ∀ segment ∈ segments, NamesAlike r.book? other? segment) :
    (r.withBook other?).answers (segments.map .byName) = r.answers (segments.map .byName) ∧
      (r.withBook other?).run (segments.map .byName) =
        (r.run (segments.map .byName)).withBook other? := by
  induction segments generalizing r with
  | nil => exact ⟨rfl, rfl⟩
  | cons segment segments ih =>
      obtain ⟨hsegment, hsegments⟩ := List.forall_mem_cons.mp h
      obtain ⟨hnode, happly⟩ := delivery_withBook hsegment
      have hbyName : (Call.byName segment).IsByName := trivial
      rw [← (hbyName.lands r).book?] at hsegments
      obtain ⟨hanswers, hrun⟩ := ih hsegments
      constructor
      · rw [List.map_cons, answers, answers, hnode, happly, hanswers]
      · rw [List.map_cons, run, List.foldl_cons, happly]
        exact hrun

/-- Sightings that count only after the last clock of every segment may be recorded at any places
among the others, before the segments are delivered. Each delivery answers with the same node, and
the registries differ in their books alone. -/
theorem later_sightings_rename_nothing {record more : List (Identity × Sighting)}
    {segments : List Timeline}
    (h : NameBook.AddsLater (segments.map (·.finish?)) record more) :
    (fresh (some (.recorded more))).answers (segments.map .byName) =
        (fresh (some (.recorded record))).answers (segments.map .byName) ∧
      (fresh (some (.recorded more))).run (segments.map .byName) =
        ((fresh (some (.recorded record))).run (segments.map .byName)).withBook
          (some (.recorded more)) := by
  have halike : ∀ segment ∈ segments,
      NamesAlike (some (.recorded record)) (some (.recorded more)) segment := by
    intro segment hsegment e _
    have hmoment : segment.finish? ∈ segments.map (·.finish?) := List.mem_map_of_mem hsegment
    exact e.provenance.nodeName_congr fun identity => (h.name?_eq hmoment identity).symm
  exact deliveries_withBook (r := fresh (some (.recorded record))) halike

/-- An address that is known under one name at nine and is given to another node at ten. The segment
without a clock is looked up before all set moments. -/
theorem address_given_away_later :
    let first : Timeline := { events := [{ Event.bare "/logs/e.log" 9 with
      provenance := { addresses := ["10.0.0.1"] } }] }
    let second : Timeline := { events := [{ provenance := { hashes := ["h1"] } }] }
    let record := [(Identity.hash "h1", ⟨"db-2", none⟩),
      (Identity.address "10.0.0.1", ⟨"db-1", Instant.ofMicros? 9⟩)]
    let more := [(Identity.address "10.0.0.1", ⟨"db-3", Instant.ofMicros? 10⟩),
      (Identity.hash "h1", ⟨"db-2", none⟩), (Identity.hash "h1", ⟨"db-4", Instant.ofMicros? 10⟩),
      (Identity.address "10.0.0.1", ⟨"db-1", Instant.ofMicros? 9⟩)]
    NameBook.AddsLater ([first, second].map (·.finish?)) record more ∧
    (fresh (some (.recorded more))).answers ([first, second].map .byName) =
        (fresh (some (.recorded record))).answers ([first, second].map .byName) ∧
      (fresh (some (.recorded more))).run ([first, second].map .byName) =
        ((fresh (some (.recorded record))).run ([first, second].map .byName)).withBook
          (some (.recorded more)) ∧
      (fresh (some (.recorded record))).answers ([first, second].map .byName) =
        [some "db-1", some "db-2"] := by
  intro first second record more
  let ten : Instant := ⟨10, by decide⟩
  have hprecedes : ∀ moment ∈ [first, second].map (·.finish?),
      precedes moment (some ten) = true := by
    decide +kernel
  have hlate : ∀ moment ∈ [first, second].map (·.finish?), rank moment < ten :=
    fun moment hmoment => precedes_iff.mp (hprecedes moment hmoment)
  have hadds : NameBook.AddsLater ([first, second].map (·.finish?)) record more :=
    .later hlate (.shared (.later hlate (.shared .nil)))
  obtain ⟨hanswers, hrun⟩ := later_sightings_rename_nothing hadds
  exact ⟨hadds, hanswers, hrun, by decide +kernel⟩

end Registry

end NodeHistory

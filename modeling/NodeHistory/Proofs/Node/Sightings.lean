import Mathlib.Data.List.Basic
import Mathlib.Data.List.Induction
import Mathlib.Data.List.TakeWhile
import NodeHistory.Node.NameBook
import NodeHistory.Proofs.Time.Order

/-!
Which name is known at a moment. Sightings may be recorded in any order of their moments. A book
keeps those of one identity in the order of their moments, which is why the walk of an insertion may
end at the first sighting that is not later, and the walk of a question at the first that is. One
more recorded sighting changes an answer only if it counts then and the one in force so far does not
count from a later moment.
So the answer is the sighting that counts from the latest moment up to the one asked for, and of
several such the one recorded last.
-/

namespace NodeHistory

open Time

namespace Sighting

/-- The sighting's moment is not after the given one. -/
def CountsAt (at? : Option Instant) (s : Sighting) : Prop := rank s.since ≤ rank at?

def InOrder (sightings : List Sighting) : Prop :=
  sightings.Pairwise fun s t => rank s.since ≤ rank t.since

/-- The last of the sightings that count at a moment, where they stand in order. -/
def inForce? (at? : Option Instant) (sightings : List Sighting) : Option Sighting :=
  (sightings.takeWhile fun s => !precedes at? s.since).getLast?

/-- Of a sighting and one recorded after it, the one whose moment is later; of equals the one
recorded after. -/
def outlasting (t s : Sighting) : Sighting := if precedes s.since t.since then t else s

variable {at? : Option Instant} {s t : Sighting} {sightings : List Sighting}

theorem not_precedes_iff_countsAt : precedes at? s.since = false ↔ s.CountsAt at? :=
  not_precedes_iff

theorem mem_insert : t ∈ s.insert sightings ↔ t = s ∨ t ∈ sightings := by
  induction sightings using List.reverseRecOn with
  | nil =>
      rw [insert_nil]
      exact List.mem_singleton.trans (or_iff_left List.not_mem_nil).symm
  | append_singleton earlier last ih =>
      rw [insert_snoc]
      split
      · rw [List.mem_append, ih, List.mem_append, or_assoc]
      · simp only [List.mem_append, List.mem_cons, List.not_mem_nil, or_false]
        rw [← or_assoc, or_comm]

theorem inOrder_snoc : InOrder (sightings ++ [s]) ↔
    InOrder sightings ∧ ∀ t ∈ sightings, rank t.since ≤ rank s.since := by
  simp [InOrder, List.pairwise_append]

theorem InOrder.insert (h : InOrder sightings) (s : Sighting) :
    InOrder (s.insert sightings) := by
  induction sightings using List.reverseRecOn with
  | nil => exact List.pairwise_singleton _ s
  | append_singleton earlier last ih =>
      obtain ⟨hearlier, hlast⟩ := inOrder_snoc.mp h
      rw [insert_snoc]
      split
      · rename_i hbefore
        refine inOrder_snoc.mpr ⟨ih hearlier, ?_⟩
        intro t ht
        rcases mem_insert.mp ht with rfl | ht
        · exact (precedes_iff.mp hbefore).le
        · exact hlast t ht
      · rename_i hbefore
        have hfollows : rank last.since ≤ rank s.since :=
          not_precedes_iff.mp (Bool.not_eq_true _ ▸ hbefore)
        rw [List.append_cons]
        refine inOrder_snoc.mpr ⟨h, ?_⟩
        intro t ht
        rcases List.mem_append.mp ht with ht | ht
        · exact (hlast t ht).trans hfollows
        · exact List.mem_singleton.mp ht ▸ hfollows

/-- What the walk over the kept sightings finds is the name of the one in force. -/
theorem nameAt_eq (found? : Option String) :
    nameAt at? found? sightings = ((inForce? at? sightings).map (·.name)).or found? := by
  induction sightings generalizing found? with
  | nil => rfl
  | cons s later ih =>
      unfold nameAt
      split
      · rename_i hlate
        simp [inForce?, hlate]
      · rename_i hcounts
        rw [ih]
        have hforce : inForce? at? (s :: later) = some ((inForce? at? later).getD s) := by
          simp [inForce?, hcounts, List.getLast?_cons]
        rw [hforce]
        cases inForce? at? later <;> rfl

theorem mem_of_inForce?_eq_some (h : inForce? at? sightings = some s) : s ∈ sightings :=
  (List.takeWhile_prefix _).subset (List.mem_of_getLast? h)

/-- In order, the last sighting is in force as soon as it counts. -/
theorem inForce?_snoc (h : InOrder (sightings ++ [s])) (at? : Option Instant) :
    inForce? at? (sightings ++ [s]) =
      if precedes at? s.since then inForce? at? sightings else some s := by
  unfold inForce?
  split
  · rename_i hlate
    rw [List.takeWhile_append]
    split
    · rename_i hwhole
      rw [(List.takeWhile_prefix _).eq_of_length hwhole]
      simp [hlate]
    · rfl
  · rename_i hcounts
    have hall : ∀ t ∈ sightings ++ [s], (!precedes at? t.since) = true := by
      have hs : rank s.since ≤ rank at? := not_precedes_iff.mp (Bool.not_eq_true _ ▸ hcounts)
      refine List.forall_mem_append.mpr ⟨?_, List.forall_mem_singleton.mpr (by simpa using hcounts)⟩
      intro t ht
      rw [Bool.not_eq_true', not_precedes_iff]
      exact ((inOrder_snoc.mp h).2 t ht).trans hs
    rw [List.takeWhile_eq_self_iff.mpr hall, List.getLast?_concat]

/-- What one more sighting changes: the one in force stays where its moment is later or the new one
does not count. -/
theorem inForce?_insert (h : InOrder sightings) (at? : Option Instant) (s : Sighting) :
    inForce? at? (s.insert sightings) =
      if precedes at? s.since then inForce? at? sightings
      else some (((inForce? at? sightings).map (·.outlasting s)).getD s) := by
  have hkept := h.insert s
  induction sightings using List.reverseRecOn with
  | nil =>
      have halone : InOrder ([] ++ [s]) := hkept
      exact inForce?_snoc halone at?
  | append_singleton earlier last ih =>
      obtain ⟨hearlier, hlast⟩ := inOrder_snoc.mp h
      rw [insert_snoc] at hkept ⊢
      by_cases hbefore : precedes s.since last.since = true
      · -- the walk passes the last sighting, which stays last and decides as before
        rw [if_pos hbefore] at hkept ⊢
        rw [inForce?_snoc hkept, inForce?_snoc h, ih hearlier (hearlier.insert s)]
        by_cases hlate : precedes at? last.since = true
        · rw [if_pos hlate, if_pos hlate]
        · have hcounts : precedes at? s.since = false :=
            not_precedes_iff.mpr ((precedes_iff.mp hbefore).le.trans
              (not_precedes_iff.mp (Bool.not_eq_true _ ▸ hlate)))
          rw [if_neg hlate, if_neg hlate, hcounts]
          simp [outlasting, hbefore]
      · rw [if_neg hbefore, List.append_cons] at hkept ⊢
        rw [inForce?_snoc hkept]
        split
        · rfl
        · cases hforce : inForce? at? (earlier ++ [last]) with
          | none => rfl
          | some t =>
              -- the new sighting stands last, so whatever is in force is no later than it
              have hno : precedes s.since t.since = false :=
                not_precedes_iff.mpr ((inOrder_snoc.mp hkept).2 t (mem_of_inForce?_eq_some hforce))
              simp [outlasting, hno]

/-! ### Sightings in the order in which they are recorded -/

/-- The sighting answers a question put at the moment: it counts then, none recorded before it
counts from a later moment on, and all recorded after it count from earlier ones on. -/
def InForce (recorded : List Sighting) (at? : Option Instant) (s : Sighting) : Prop :=
  ∃ before after, recorded = before ++ s :: after ∧ s.CountsAt at? ∧
    (∀ t ∈ before, t.CountsAt at? → rank t.since ≤ rank s.since) ∧
    ∀ t ∈ after, t.CountsAt at? → rank t.since < rank s.since

variable {recorded : List Sighting}

theorem InForce.mem (h : InForce recorded at? s) : s ∈ recorded := by
  obtain ⟨before, after, rfl, -⟩ := h
  exact List.mem_append_right _ List.mem_cons_self

theorem InForce.countsAt (h : InForce recorded at? s) : s.CountsAt at? := by
  obtain ⟨before, after, -, hcounts, -⟩ := h
  exact hcounts

theorem InForce.rank_le (h : InForce recorded at? s) (ht : t ∈ recorded)
    (hcounts : t.CountsAt at?) : rank t.since ≤ rank s.since := by
  obtain ⟨before, after, rfl, -, hbefore, hafter⟩ := h
  rcases List.mem_append.mp ht with ht | ht
  · exact hbefore t ht hcounts
  · rcases List.mem_cons.mp ht with rfl | ht
    · exact le_rfl
    · exact (hafter t ht hcounts).le

theorem inForce_snoc : InForce (recorded ++ [s]) at? t ↔
    (t = s ∧ s.CountsAt at? ∧ ∀ u ∈ recorded, u.CountsAt at? → rank u.since ≤ rank s.since) ∨
      (InForce recorded at? t ∧ (s.CountsAt at? → rank s.since < rank t.since)) := by
  constructor
  · rintro ⟨before, after, hsplit, hcounts, hbefore, hafter⟩
    rcases List.eq_nil_or_concat' after with rfl | ⟨after, last, rfl⟩
    · obtain ⟨rfl, hlast⟩ := List.append_inj' hsplit rfl
      obtain rfl := List.singleton_inj.mp hlast
      exact Or.inl ⟨rfl, hcounts, hbefore⟩
    · have hshift : recorded ++ [s] = (before ++ t :: after) ++ [last] := by simpa using hsplit
      obtain ⟨rfl, hlast⟩ := List.append_inj' hshift rfl
      obtain rfl := List.singleton_inj.mp hlast
      obtain ⟨hafter, hlast⟩ := List.forall_mem_append.mp hafter
      exact Or.inr ⟨⟨before, after, rfl, hcounts, hbefore, hafter⟩,
        hlast s (List.mem_singleton_self s)⟩
  · rintro (⟨rfl, hcounts, hbefore⟩ | ⟨⟨before, after, rfl, hcounts, hbefore, hafter⟩, hlast⟩)
    · exact ⟨recorded, [], rfl, hcounts, hbefore, fun _ ht => nomatch ht⟩
    · refine ⟨before, after ++ [s], by simp, hcounts, hbefore, ?_⟩
      exact List.forall_mem_append.mpr ⟨hafter, List.forall_mem_singleton.mpr hlast⟩

/-- The sightings as they are kept once all of them are recorded. -/
def arranged (recorded : List Sighting) : List Sighting :=
  recorded.foldl (fun kept s => s.insert kept) []

theorem arranged_snoc (recorded : List Sighting) (s : Sighting) :
    arranged (recorded ++ [s]) = s.insert (arranged recorded) :=
  List.foldl_append

theorem inOrder_arranged (recorded : List Sighting) : InOrder (arranged recorded) := by
  induction recorded using List.reverseRecOn with
  | nil => exact List.Pairwise.nil
  | append_singleton recorded s ih =>
      rw [arranged_snoc]
      exact ih.insert s

theorem inForce?_arranged_eq_none_iff :
    inForce? at? (arranged recorded) = none ↔ ∀ s ∈ recorded, ¬ s.CountsAt at? := by
  induction recorded using List.reverseRecOn with
  | nil => exact iff_of_true rfl fun _ hs => nomatch hs
  | append_singleton recorded s ih =>
      rw [arranged_snoc, inForce?_insert (inOrder_arranged recorded), List.forall_mem_append,
        List.forall_mem_singleton, ← not_precedes_iff_countsAt, Bool.not_eq_false, ← ih]
      by_cases hlate : precedes at? s.since = true
      · simp [hlate]
      · simp [hlate]

theorem inForce?_arranged_eq_some_iff :
    inForce? at? (arranged recorded) = some t ↔ InForce recorded at? t := by
  induction recorded using List.reverseRecOn generalizing t with
  | nil =>
      refine iff_of_false nofun ?_
      exact fun h => nomatch h.mem
  | append_singleton recorded s ih =>
      rw [arranged_snoc, inForce?_insert (inOrder_arranged recorded), inForce_snoc]
      by_cases hlate : precedes at? s.since = true
      · have hcounts : ¬ s.CountsAt at? := by simp [← not_precedes_iff_countsAt, hlate]
        simp [hlate, hcounts, ih]
      · have hcounts : s.CountsAt at? := not_precedes_iff.mp (Bool.not_eq_true _ ▸ hlate)
        rw [if_neg hlate, Option.some_inj]
        cases hold : inForce? at? (arranged recorded) with
        | none =>
            have hnone := inForce?_arranged_eq_none_iff.mp hold
            constructor
            · rintro rfl
              exact Or.inl ⟨rfl, hcounts, fun u hu hc => absurd hc (hnone u hu)⟩
            · rintro (⟨rfl, -, -⟩ | ⟨h, -⟩)
              · rfl
              · exact absurd h.countsAt (hnone t h.mem)
        | some u =>
            have hu : InForce recorded at? u := ih.mp hold
            have hsole (h : InForce recorded at? t) : u = t :=
              Option.some.inj (hold.symm.trans (ih.mpr h))
            change u.outlasting s = t ↔ _
            unfold outlasting
            split
            · rename_i hlasts
              have hlasts := precedes_iff.mp hlasts
              constructor
              · rintro rfl
                exact Or.inr ⟨hu, fun _ => hlasts⟩
              · rintro (⟨rfl, -, hall⟩ | ⟨h, -⟩)
                · exact absurd (hall u hu.mem hu.countsAt) (not_le_of_gt hlasts)
                · exact hsole h
            · rename_i hlasts
              have hends := not_precedes_iff.mp (Bool.not_eq_true _ ▸ hlasts)
              constructor
              · rintro rfl
                exact Or.inl ⟨rfl, hcounts, fun v hv hc => (hu.rank_le hv hc).trans hends⟩
              · rintro (⟨rfl, -, -⟩ | ⟨h, hless⟩)
                · rfl
                · rw [hsole h] at hends
                  exact absurd (hless hcounts) (not_lt_of_ge hends)

end Sighting

namespace NameBook

open Sighting

/-- The book once the sightings are recorded, one after another. -/
def recorded (record : List (Identity × Sighting)) : NameBook :=
  record.foldl (fun book entry => book.record entry.1 entry.2) empty

/-- The sightings of one identity, in the order in which they are recorded. -/
def sightingsOf (identity : Identity) (record : List (Identity × Sighting)) : List Sighting :=
  (record.filter (·.1 = identity)).map (·.2)

theorem sightings_recorded (record : List (Identity × Sighting)) (identity : Identity) :
    (recorded record).sightings identity = arranged (sightingsOf identity record) := by
  induction record using List.reverseRecOn with
  | nil => rfl
  | append_singleton record entry ih =>
      obtain ⟨key, s⟩ := entry
      have hsnoc : recorded (record ++ [(key, s)]) = (recorded record).record key s :=
        List.foldl_append
      rw [hsnoc, sightings_record]
      split
      · rename_i hsame
        subst hsame
        have hmore : sightingsOf identity (record ++ [(identity, s)]) =
            sightingsOf identity record ++ [s] := by simp [sightingsOf]
        rw [hmore, arranged_snoc, ih]
      · rename_i hdiffers
        have hsame : sightingsOf identity (record ++ [(key, s)]) = sightingsOf identity record := by
          simp [sightingsOf, Ne.symm hdiffers]
        rw [hsame, ih]

/-- Whatever the order in which sightings are recorded, a question is answered by the name of the
sighting in force, and left open exactly where no sighting of the identity counts. -/
theorem name?_recorded (record : List (Identity × Sighting)) (identity : Identity)
    (at? : Option Instant) :
    (∀ name, (recorded record).name? identity at? = some name ↔
      ∃ s, InForce (sightingsOf identity record) at? s ∧ s.name = name) ∧
    ((recorded record).name? identity at? = none ↔
      ∀ s ∈ sightingsOf identity record, ¬ s.CountsAt at?) := by
  have hname : (recorded record).name? identity at? =
      (inForce? at? (arranged (sightingsOf identity record))).map (·.name) := by
    rw [← sightings_recorded, name?, nameAt_eq, Option.or_none]
  rw [hname]
  refine ⟨fun name => ?_, ?_⟩
  · simp only [Option.map_eq_some_iff, inForce?_arranged_eq_some_iff]
  · rw [Option.map_eq_none_iff, inForce?_arranged_eq_none_iff]

/-- The latest moment is recorded first, and of two names for one moment the second is in force. -/
example :
    let book := recorded [(.hash "h1", ⟨"db-3", Instant.ofMicros? 9⟩), (.hash "h1", ⟨"db-1", none⟩),
      (.address "h1", ⟨"db-4", none⟩), (.hash "h1", ⟨"db-2", none⟩)]
    [none, Instant.ofMicros? 8, Instant.ofMicros? 9].map (book.name? (.hash "h1")) =
      [some "db-2", some "db-2", some "db-3"] := by
  decide +kernel

end NameBook

end NodeHistory

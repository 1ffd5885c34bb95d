import Mathlib.Order.MinMax
import NodeHistory.Proofs.Timeline.Reconciliation

/-!
The span of a merged timeline is the hull of the two spans. Nothing is assumed of the order of
their events, and either span may be unset. `Option.merge min` is the earlier of the set moments
and `Option.merge max` the later one.
-/

namespace NodeHistory.Timeline

open Time

theorem merge_min_eq_left {a b : Option Instant} (set : a.isSome = true)
    (h : rank a ≤ rank b) : Option.merge min a b = a := by
  cases a with
  | none => cases set
  | some s =>
      cases b with
      | none => rfl
      | some t => simpa using WithBot.coe_le_coe.mp h

theorem merge_max_eq_right {a b : Option Instant} (h : rank a ≤ rank b) :
    Option.merge max a b = b := by
  cases a with
  | none => simp
  | some s =>
      cases b with
      | none => simp at h
      | some t => simpa using WithBot.coe_le_coe.mp h

theorem merge_max_comm (a b : Option Instant) : Option.merge max a b = Option.merge max b a := by
  cases a <;> cases b <;> simp [max_comm]

theorem merge_min_comm (a b : Option Instant) : Option.merge min a b = Option.merge min b a := by
  cases a <;> cases b <;> simp [min_comm]

theorem rank_merge_min {a b : Option Instant} (ha : a.isSome = true)
    (hb : b.isSome = true) : rank (Option.merge min a b) = min (rank a) (rank b) := by
  obtain ⟨s, rfl⟩ := Option.isSome_iff_exists.mp ha
  obtain ⟨t, rfl⟩ := Option.isSome_iff_exists.mp hb
  exact WithBot.coe_min s t

theorem rank_merge_max (a b : Option Instant) :
    rank (Option.merge max a b) = max (rank a) (rank b) := by
  cases a with
  | none => simp
  | some s =>
      cases b with
      | none => simp
      | some t => exact WithBot.coe_max s t

theorem isSome_of_rank_lt {a b : Option Instant} (h : rank a < rank b) : b.isSome = true := by
  cases b with
  | none => simp at h
  | some t => rfl

/-- A timeline has a first clock exactly when it has a last one. -/
theorem isSome_start? (t : Timeline) : t.start?.isSome = t.finish?.isSome := by
  rw [start?_eq_head?, finish?_eq_getLast?]
  cases hclocks : t.clocks with
  | nil => rfl
  | cons first rest => simp [List.getLast?_cons]

theorem start?_join (earlier later : Timeline) :
    (earlier.join later).start? = earlier.start?.or later.start? := by
  simp [start?_eq_head?, List.head?_append]

theorem finish?_join (earlier later : Timeline) :
    (earlier.join later).finish? = later.finish?.or earlier.finish? := by
  simp [finish?_eq_getLast?, List.getLast?_append]

private theorem reconciles_start? {earlier later result : Timeline}
    (h : Reconciles earlier later result) (leads : rank earlier.start? ≤ rank later.start?) :
    result.start? = Option.merge min earlier.start? later.start? := by
  cases h with
  | superseded same outlasted => rw [merge_min_eq_left same.1 leads, same.2]
  | kept same lasts => rw [merge_min_eq_left same.1 leads]
  | contained apart set lasts =>
      rw [merge_min_eq_left ((isSome_start? earlier).trans set) leads]
  | cut apart outlasted meets =>
      have set := (isSome_start? earlier).trans (isSome_of_rank_lt meets)
      rw [merge_min_eq_left set leads, start?_join, Option.or_of_isSome set]
  | appended apart outlasted follows =>
      rw [start?_join]
      cases hstart : earlier.start? with
      | none => simp
      | some start =>
          have set : (some start).isSome = true := rfl
          rw [merge_min_eq_left set (hstart ▸ leads), Option.or_of_isSome set]

private theorem reconciles_finish? {earlier later result : Timeline}
    (h : Reconciles earlier later result) :
    result.finish? = Option.merge max earlier.finish? later.finish? := by
  cases h with
  | superseded same outlasted => rw [merge_max_eq_right outlasted.le]
  | kept same lasts => rw [merge_max_comm, merge_max_eq_right lasts]
  | contained apart set lasts => rw [merge_max_comm, merge_max_eq_right lasts]
  | cut apart outlasted meets =>
      rw [merge_max_eq_right outlasted.le, finish?_join, finish?_after outlasted,
        Option.or_of_isSome (isSome_of_rank_lt outlasted)]
  | appended apart outlasted follows =>
      rw [finish?_join]
      cases hfinish : earlier.finish? with
      | none => simp
      | some finish =>
          have hlast : rank (some finish) < rank later.finish? :=
            hfinish ▸ outlasted (by simp [hfinish])
          rw [merge_max_eq_right hlast.le, Option.or_of_isSome (isSome_of_rank_lt hlast)]

theorem start?_of_isEmpty {t : Timeline} (h : t.isEmpty = true) : t.start? = none := by
  rw [start?_eq_head?, clocks, isEmpty_iff.mp h]
  rfl

theorem finish?_of_isEmpty {t : Timeline} (h : t.isEmpty = true) : t.finish? = none := by
  rw [finish?_eq_getLast?, clocks, isEmpty_iff.mp h]
  rfl

theorem isEmpty_of_start?_isSome {t : Timeline} (h : t.start?.isSome = true) :
    t.isEmpty = false := by
  cases hempty : t.isEmpty with
  | false => rfl
  | true => simp [start?_of_isEmpty hempty] at h

theorem start?_merge (a b : Timeline) :
    (a.merge b).start? = Option.merge min a.start? b.start? := by
  cases hea : a.isEmpty with
  | true => rw [merge_of_isEmpty_left b hea, start?_of_isEmpty hea, Option.merge_none_left]
  | false =>
      cases heb : b.isEmpty with
      | true => rw [merge_of_isEmpty_right hea heb, start?_of_isEmpty heb, Option.merge_none_right]
      | false =>
          rw [reconciles_start? (merge_reconciles hea heb) (rank_start_leading_le a b)]
          rcases leading_trailing_cases a b with ⟨hl, ht⟩ | ⟨hl, ht⟩
          · rw [hl, ht]
          · rw [hl, ht, merge_min_comm]

theorem finish?_merge (a b : Timeline) :
    (a.merge b).finish? = Option.merge max a.finish? b.finish? := by
  cases hea : a.isEmpty with
  | true => rw [merge_of_isEmpty_left b hea, finish?_of_isEmpty hea, Option.merge_none_left]
  | false =>
      cases heb : b.isEmpty with
      | true =>
          rw [merge_of_isEmpty_right hea heb, finish?_of_isEmpty heb, Option.merge_none_right]
      | false =>
          rw [reconciles_finish? (merge_reconciles hea heb)]
          rcases leading_trailing_cases a b with ⟨hl, ht⟩ | ⟨hl, ht⟩
          · rw [hl, ht]
          · rw [hl, ht, merge_max_comm]

/-! ### The hull of several timelines -/

/-- The earliest of the set starts. -/
def earliestStart (timelines : List Timeline) : Option Instant := (timelines.filterMap start?).min?

/-- The latest of the set ends. -/
def latestFinish (timelines : List Timeline) : Option Instant := (timelines.filterMap finish?).max?

private theorem min?_snoc (moments : List Instant) (t : Instant) :
    (moments ++ [t]).min? = Option.merge min moments.min? (some t) := by
  cases moments with
  | nil => rfl
  | cons first rest =>
      rw [List.cons_append, List.min?_cons', List.min?_cons', List.foldl_append]
      rfl

private theorem max?_snoc (moments : List Instant) (t : Instant) :
    (moments ++ [t]).max? = Option.merge max moments.max? (some t) := by
  cases moments with
  | nil => rfl
  | cons first rest =>
      rw [List.cons_append, List.max?_cons', List.max?_cons', List.foldl_append]
      rfl

theorem earliestStart_snoc (timelines : List Timeline) (t : Timeline) :
    earliestStart (timelines ++ [t]) = Option.merge min (earliestStart timelines) t.start? := by
  unfold earliestStart
  rw [List.filterMap_append]
  cases hstart : t.start? with
  | none => simp [hstart]
  | some start =>
      simp only [List.filterMap_cons_some hstart, List.filterMap_nil]
      exact min?_snoc _ start

theorem latestFinish_snoc (timelines : List Timeline) (t : Timeline) :
    latestFinish (timelines ++ [t]) = Option.merge max (latestFinish timelines) t.finish? := by
  unfold latestFinish
  rw [List.filterMap_append]
  cases hfinish : t.finish? with
  | none => simp [hfinish]
  | some finish =>
      simp only [List.filterMap_cons_some hfinish, List.filterMap_nil]
      exact max?_snoc _ finish

theorem earliestStart_perm {first second : List Timeline} (h : first.Perm second) :
    earliestStart first = earliestStart second := by
  have hmoments := h.filterMap start?
  apply Option.ext
  intro c
  simp only [earliestStart, List.min?_eq_some_iff, hmoments.mem_iff]

theorem latestFinish_perm {first second : List Timeline} (h : first.Perm second) :
    latestFinish first = latestFinish second := by
  have hmoments := h.filterMap finish?
  apply Option.ext
  intro c
  simp only [latestFinish, List.max?_eq_some_iff, hmoments.mem_iff]

end NodeHistory.Timeline

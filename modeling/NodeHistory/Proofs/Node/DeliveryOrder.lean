import Mathlib.Data.List.Induction
import Mathlib.Order.MinMax
import NodeHistory.Proofs.Node.Run
import NodeHistory.Proofs.Timeline.Hull
import NodeHistory.Proofs.Timeline.Window

/-!
Windows of one record, delivered to one directory in any order. What is stored is exactly what the
deliveries let in, each judged by the ends of the windows delivered before it, and a moment once
stored stays. A window that falls into a hole between earlier ones is not let in, so the stored
moments are those of all windows only where every moment is let in by some delivery.
-/

namespace NodeHistory

open Time

namespace Timeline

/-- The window lets the moment in when it arrives after the given ones: it starts before all of
them, or reaches past both ends of all of them, or the moment lies beyond the ends of all. -/
def LetsIn (arrived : List Timeline) (w : Timeline) (c : Instant) : Prop :=
  (∀ v ∈ arrived, precedes w.start? v.start? = true) ∨
    (∀ v ∈ arrived, precedes v.start? w.start? = false ∧
      precedes v.finish? w.finish? = true) ∨
    ∀ v ∈ arrived, precedes v.finish? (some c) = true

instance (arrived : List Timeline) (w : Timeline) (c : Instant) :
    Decidable (LetsIn arrived w c) :=
  inferInstanceAs (Decidable (_ ∨ _))

/-- The timelines merged one after another. -/
def accumulated (arrived : List Timeline) : Timeline := arrived.foldl merge {}

theorem accumulated_snoc (arrived : List Timeline) (w : Timeline) :
    accumulated (arrived ++ [w]) = (accumulated arrived).merge w := by
  simp [accumulated]

theorem accumulated_singleton (w : Timeline) : accumulated [w] = w := by
  have hempty : isEmpty {} = true := rfl
  exact merge_of_isEmpty_left w hempty

/-- The span of what is accumulated, by the spans of what arrived. -/
structure Spans (arrived : List Timeline) (acc : Timeline) : Prop where
  lt_start : ∀ x, x < rank acc.start? ↔ ∀ v ∈ arrived, x < rank v.start?
  le_start : ∀ x, x ≤ rank acc.start? ↔ ∀ v ∈ arrived, x ≤ rank v.start?
  finish_lt : ∀ x, rank acc.finish? < x ↔ ∀ v ∈ arrived, rank v.finish? < x

private theorem spans_singleton (w : Timeline) : Spans [w] w := by
  constructor <;> intro x <;> simp

private theorem Spans.merge {arrived : List Timeline} {acc w : Timeline}
    (h : Spans arrived acc) (hacc : acc.start?.isSome = true) (hw : w.start?.isSome = true) :
    Spans (arrived ++ [w]) (acc.merge w) := by
  have hstart : rank (acc.merge w).start? = min (rank acc.start?) (rank w.start?) := by
    rw [start?_merge, rank_merge_min hacc hw]
  have hfinish : rank (acc.merge w).finish? = max (rank acc.finish?) (rank w.finish?) := by
    rw [finish?_merge, rank_merge_max]
  constructor
  · intro x
    rw [hstart, lt_min_iff, h.lt_start, List.forall_mem_append, List.forall_mem_singleton]
  · intro x
    rw [hstart, le_min_iff, h.le_start, List.forall_mem_append, List.forall_mem_singleton]
  · intro x
    rw [hfinish, max_lt_iff, h.finish_lt, List.forall_mem_append, List.forall_mem_singleton]

private theorem admits_iff_letsIn {arrived : List Timeline} {acc w : Timeline}
    (h : Spans arrived acc) (c : Instant) : Admits acc w c ↔ LetsIn arrived w c := by
  unfold Admits LetsIn
  simp only [precedes_iff, not_precedes_iff, rank_some]
  rw [h.lt_start, h.le_start, h.finish_lt, h.finish_lt, ← forall₂_and]

/-- Some window among the arrived ones let the moment in when it arrived. -/
def LetInBy (arrived : List Timeline) (c : Instant) : Prop :=
  ∃ before w after, arrived = before ++ w :: after ∧ c ∈ w.times ∧ LetsIn before w c

private theorem letInBy_snoc (arrived : List Timeline) (w : Timeline) (c : Instant) :
    LetInBy (arrived ++ [w]) c ↔ LetInBy arrived c ∨ (c ∈ w.times ∧ LetsIn arrived w c) := by
  constructor
  · rintro ⟨before, v, after, hsplit, hc, hin⟩
    rcases List.eq_nil_or_concat after with rfl | ⟨after, last, rfl⟩
    · obtain ⟨rfl, hlast⟩ := List.append_inj' hsplit rfl
      obtain rfl := List.singleton_inj.mp hlast
      exact Or.inr ⟨hc, hin⟩
    · have hshift : arrived ++ [w] = (before ++ v :: after) ++ [last] := by simpa using hsplit
      exact Or.inl ⟨before, v, after, (List.append_inj' hshift rfl).1, hc, hin⟩
  · rintro (⟨before, v, after, rfl, hc, hin⟩ | ⟨hc, hin⟩)
    · exact ⟨before, v, after ++ [w], by simp, hc, hin⟩
    · exact ⟨arrived, w, [], rfl, hc, hin⟩

private theorem letsIn_first (w : Timeline) (c : Instant) : LetsIn [] w c :=
  Or.inl fun _ hv => nomatch hv

private theorem not_letInBy_nil (c : Instant) : ¬ LetInBy [] c := by
  rintro ⟨before, w, after, hsplit, -⟩
  simp at hsplit

/-- What windows of one record accumulate to, whatever their order. -/
theorem accumulated_windows {record : List Event} (hrecord : Rising record)
    {arrived : List Timeline} (hwindows : ∀ w ∈ arrived, IsWindow record w)
    (hfilled : arrived ≠ []) :
    Accumulated record (accumulated arrived) ∧ Spans arrived (accumulated arrived) ∧
      ∀ c, c ∈ (accumulated arrived).clocks ↔ LetInBy arrived c := by
  induction arrived using List.reverseRecOn with
  | nil => exact absurd rfl hfilled
  | append_singleton arrived w ih =>
      have hw : IsWindow record w := hwindows w (by simp)
      have hwindow := hw.accumulated hrecord
      cases arrived with
      | nil =>
          rw [List.nil_append, accumulated_singleton]
          refine ⟨hwindow, spans_singleton w, fun c => ?_⟩
          rw [← List.nil_append [w], letInBy_snoc, hwindow.times_eq]
          simp [letsIn_first, not_letInBy_nil]
      | cons v arrived =>
          obtain ⟨hacc, hspans, hmem⟩ :=
            ih (fun x hx => hwindows x (List.mem_append_left _ hx)) (List.cons_ne_nil v arrived)
          obtain ⟨start, -, hstart⟩ := hacc.start_mem
          obtain ⟨first, -, hfirst⟩ := hwindow.start_mem
          rw [accumulated_snoc]
          refine ⟨hacc.merge hrecord hw, hspans.merge (by simp [hstart]) (by simp [hfirst]), ?_⟩
          intro c
          rw [mem_clocks_merge_window hrecord hacc hw, letInBy_snoc, hmem,
            admits_iff_letsIn hspans, hwindow.times_eq]

end Timeline

namespace Registry

open Timeline

/-- The times stored under a node. -/
def timesOf (r : Registry) (node : String) : List Instant :=
  ((r.get? node).map Timeline.times).getD []

/-- Deliveries by directory, each the path of a segment's file and the segment. -/
def deliver (r : Registry) (deliveries : List (String × Timeline)) : Registry :=
  r.run (deliveries.map fun d => .byDirectory d.1 d.2)

theorem deliver_snoc (r : Registry) (deliveries : List (String × Timeline))
    (path : String) (segment : Timeline) :
    r.deliver (deliveries ++ [(path, segment)]) =
      ((r.deliver deliveries).mergeByDirectory path segment).2.1 := by
  simp [deliver, run, Call.apply]

variable {directory path : String} {segment : Timeline}

private theorem nodes_first_delivery {r : Registry} (hempty : r.nodes = [])
    (hpath : Text.Path.parentName path = directory) :
    (r.mergeByDirectory path segment).2.1.nodes = [(directory, segment)] := by
  rw [nodes_mergeByDirectory, hempty, hpath]
  rfl

private theorem nodes_next_delivery {r : Registry} {stored : Timeline}
    (hone : r.nodes = [(directory, stored)]) (hstored : stored.isEmpty = false)
    (hpath : Text.Path.parentName path = directory) :
    (r.mergeByDirectory path segment).2.1.nodes = [(directory, stored.merge segment)] := by
  have hbelongs : belongs directory (directory, stored) = true := by simp [belongs, hstored]
  have hstays : moves directory (directory, stored) = false := by simp [moves]
  rw [nodes_mergeByDirectory, hone, hpath]
  simp [gathered, hbelongs, hstays, putIn]

/-- Windows delivered to one directory accumulate in its one entry. -/
theorem nodes_deliver_windows (book? : Option NameBook) {record : List Event}
    (hrecord : Rising record) {deliveries : List (String × Timeline)}
    (hpaths : ∀ d ∈ deliveries, Text.Path.parentName d.1 = directory)
    (hwindows : ∀ d ∈ deliveries, IsWindow record d.2) (hfilled : deliveries ≠ []) :
    ((fresh book?).deliver deliveries).nodes =
      [(directory, accumulated (deliveries.map (·.2)))] := by
  induction deliveries using List.reverseRecOn with
  | nil => exact absurd rfl hfilled
  | append_singleton deliveries d ih =>
      obtain ⟨path, w⟩ := d
      have hpath : Text.Path.parentName path = directory := hpaths (path, w) (by simp)
      rw [deliver_snoc, List.map_append, List.map_singleton, accumulated_snoc]
      cases deliveries with
      | nil =>
          rw [nodes_first_delivery rfl hpath, List.map_nil, ← accumulated_snoc, List.nil_append,
            accumulated_singleton]
      | cons d deliveries =>
          have hearlier : ∀ e ∈ d :: deliveries, IsWindow record e.2 :=
            fun e he => hwindows e (List.mem_append_left _ he)
          have hnodes := ih (fun e he => hpaths e (List.mem_append_left _ he)) hearlier
            (List.cons_ne_nil d deliveries)
          have harrived := List.forall_mem_map.mpr hearlier
          have hacc := (accumulated_windows hrecord harrived (by simp)).1
          exact nodes_next_delivery hnodes hacc.isEmpty hpath

/-- For windows of one record in any order of delivery, the moments stored are those that some
delivery lets in. They are the moments of all windows exactly when every moment of a window is let
in by some delivery. -/
theorem stored_iff_let_in (book? : Option NameBook) {record : List Event}
    (hrecord : Rising record) {deliveries : List (String × Timeline)}
    (hpaths : ∀ d ∈ deliveries, Text.Path.parentName d.1 = directory)
    (hwindows : ∀ d ∈ deliveries, IsWindow record d.2) :
    (∀ t, t ∈ ((fresh book?).deliver deliveries).timesOf directory ↔
      LetInBy (deliveries.map (·.2)) t) ∧
    ((∀ t, t ∈ ((fresh book?).deliver deliveries).timesOf directory ↔
        ∃ d ∈ deliveries, t ∈ d.2.times) ↔
      ∀ d ∈ deliveries, ∀ t ∈ d.2.times, LetInBy (deliveries.map (·.2)) t) := by
  have hstored (t : Instant) :
      t ∈ ((fresh book?).deliver deliveries).timesOf directory ↔
        LetInBy (deliveries.map (·.2)) t := by
    by_cases hnone : deliveries = []
    · subst hnone
      constructor
      · intro ht
        cases ht
      · exact fun ht => absurd ht (not_letInBy_nil t)
    · have hfilled : deliveries.map (·.2) ≠ [] := by simpa using hnone
      obtain ⟨hacc, -, hmem⟩ :=
        accumulated_windows hrecord (List.forall_mem_map.mpr hwindows) hfilled
      have hget : ((fresh book?).deliver deliveries).get? directory =
          some (accumulated (deliveries.map (·.2))) := by
        rw [get?, nodes_deliver_windows book? hrecord hpaths hwindows hnone]
        exact List.lookup_cons_self
      rw [timesOf, hget, ← hmem, ← hacc.times_eq]
      rfl
  refine ⟨hstored, ?_⟩
  constructor
  · intro hall d hd t ht
    exact (hstored t).mp ((hall t).mpr ⟨d, hd, ht⟩)
  · intro hin t
    constructor
    · intro ht
      obtain ⟨before, w, after, hsplit, hw, -⟩ := (hstored t).mp ht
      have hmember : w ∈ deliveries.map (·.2) := by
        rw [hsplit]
        exact List.mem_append_right _ List.mem_cons_self
      obtain ⟨d, hd, rfl⟩ := List.mem_map.mp hmember
      exact ⟨d, hd, hw⟩
    · rintro ⟨d, hd, ht⟩
      exact (hstored t).mpr (hin d hd t ht)

/-- Six events one microsecond apart. -/
def sixEvents : List Event := [1, 2, 3, 4, 5, 6].map (Event.bare "/logs/n/error.log")

/-- The window of the six events that leaves out some and then takes some. -/
def windowOf (left taken : Nat) : String × Timeline :=
  ("/logs/n/error.log", ⟨(sixEvents.drop left).take taken, .samePattern⟩)

/-- The middle window first, the last one next, and one that reaches into the first at the end. -/
theorem first_window_last_stores_all :
    Rising sixEvents ∧
    (∀ d ∈ [windowOf 2 2, windowOf 4 2, windowOf 0 3], Text.Path.parentName d.1 = "n") ∧
    (∀ d ∈ [windowOf 2 2, windowOf 4 2, windowOf 0 3], IsWindow sixEvents d.2) ∧
    ∀ t, t ∈ ((fresh none).deliver [windowOf 2 2, windowOf 4 2, windowOf 0 3]).timesOf "n" ↔
      ∃ d ∈ [windowOf 2 2, windowOf 4 2, windowOf 0 3], t ∈ d.2.times := by
  have hrecord : Rising sixEvents := by decide +kernel
  have hpaths : ∀ d ∈ [windowOf 2 2, windowOf 4 2, windowOf 0 3],
      Text.Path.parentName d.1 = "n" := by decide +kernel
  have hwindows : ∀ d ∈ [windowOf 2 2, windowOf 4 2, windowOf 0 3],
      IsWindow sixEvents d.2 := by decide +kernel
  refine ⟨hrecord, hpaths, hwindows, ?_⟩
  apply (stored_iff_let_in none hrecord hpaths hwindows).2.mpr
  intro d hd t ht
  rcases List.mem_cons.mp hd with rfl | hd
  · exact ⟨[], _, _, rfl, ht, letsIn_first _ t⟩
  · rcases List.mem_cons.mp hd with rfl | hd
    · refine ⟨[(windowOf 2 2).2], _, _, rfl, ht, ?_⟩
      revert ht t
      decide +kernel
    · obtain rfl := List.mem_singleton.mp hd
      refine ⟨[(windowOf 2 2).2, (windowOf 4 2).2], _, _, rfl, ht, ?_⟩
      revert ht t
      decide +kernel

/-- The middle window arrives last, between the ends of the other two, and none of it is stored. -/
theorem middle_window_last_is_lost :
    ¬ ∀ (book? : Option NameBook) (directory : String) (record : List Event)
        (deliveries : List (String × Timeline)), Rising record →
      (∀ d ∈ deliveries, Text.Path.parentName d.1 = directory) →
      (∀ d ∈ deliveries, ∀ e ∈ d.2.events,
        Text.Path.parentName e.provenance.filePath = directory) →
      (∀ d ∈ deliveries, IsWindow record d.2) →
      ∀ t, t ∈ ((fresh book?).deliver deliveries).timesOf directory ↔
        ∃ d ∈ deliveries, t ∈ d.2.times := by
  intro hall
  have hstored := hall none "n" sixEvents [windowOf 0 2, windowOf 4 2, windowOf 2 2]
    (by decide +kernel) (by decide +kernel) (by decide +kernel) (by decide +kernel)
  have hmiddle : ∀ t ∈ (windowOf 2 2).2.times,
      t ∈ ((fresh none).deliver [windowOf 0 2, windowOf 4 2, windowOf 2 2]).timesOf "n" :=
    fun t ht => (hstored t).mpr ⟨windowOf 2 2, by simp, ht⟩
  exact absurd hmiddle (by decide +kernel)

end Registry

end NodeHistory

import Mathlib.Data.List.Infix
import NodeHistory.Proofs.Timeline.Split

/-!
Windows of one record, as rotated and repeatedly collected segments are. The record's events all
tell the clock, and their clocks rise strictly. What is accumulated from windows may have holes,
so a window that arrives later brings in only what its place beside the accumulated span allows:
all of it if it starts before that span or reaches past both its ends, and otherwise what lies
beyond the span's end.
-/

namespace NodeHistory.Timeline

open Time

/-- Every event tells the clock, and the clocks strictly rise. -/
structure Rising (record : List Event) : Prop where
  clocked : ∀ e ∈ record, e.clock?.isSome = true
  rises : (Event.clocks record).Pairwise (· < ·)

/-- A filled contiguous part of the record. -/
structure IsWindow (record : List Event) (t : Timeline) : Prop where
  filled : t.events ≠ []
  contiguous : t.events <:+: record

/-- What merging windows of the record always keeps, although it may leave holes. -/
structure Accumulated (record : List Event) (t : Timeline) : Prop where
  filled : t.events ≠ []
  clocked : ∀ e ∈ t.events, e.clock?.isSome = true
  ordered : t.Ordered
  within : ∀ c ∈ t.clocks, c ∈ Event.clocks record

instance (record : List Event) : Decidable (Rising record) :=
  decidable_of_iff ((∀ e ∈ record, e.clock?.isSome = true) ∧
      (Event.clocks record).Pairwise (· < ·))
    ⟨fun h => ⟨h.1, h.2⟩, fun h => ⟨h.clocked, h.rises⟩⟩

instance (record : List Event) (t : Timeline) : Decidable (IsWindow record t) :=
  decidable_of_iff (t.events ≠ [] ∧ t.events <:+: record)
    ⟨fun h => ⟨h.1, h.2⟩, fun h => ⟨h.filled, h.contiguous⟩⟩

theorem Rising.nodup_clock {events : List Event} (h : Rising events) :
    (events.map Event.clock?).Nodup := by
  apply List.pairwise_map.mpr
  refine (List.pairwise_filterMap.mp h.rises).imp_of_mem ?_
  intro a b ha _ hab hsame
  obtain ⟨c, hc⟩ := Option.isSome_iff_exists.mp (h.clocked a ha)
  exact lt_irrefl c (hab c hc c (hsame ▸ hc))

variable {record : List Event} {acc w : Timeline}

theorem IsWindow.accumulated (hrecord : Rising record) (hw : IsWindow record w) :
    Accumulated record w where
  filled := hw.filled
  clocked e he := hrecord.clocked e (hw.contiguous.subset he)
  ordered := (hrecord.rises.sublist (hw.contiguous.sublist.filterMap _)).imp le_of_lt
  within _ hc := (hw.contiguous.sublist.filterMap _).subset hc

theorem Accumulated.isEmpty (h : Accumulated record acc) : acc.isEmpty = false := by
  rw [← Bool.not_eq_true, isEmpty_iff]
  exact h.filled

theorem Accumulated.exists_clock (h : Accumulated record acc) : ∃ c, c ∈ acc.clocks := by
  obtain ⟨e, he⟩ := List.exists_mem_of_ne_nil _ h.filled
  obtain ⟨c, hc⟩ := Option.isSome_iff_exists.mp (h.clocked e he)
  exact ⟨c, Event.mem_clocks.mpr ⟨e, he, hc⟩⟩

theorem Accumulated.finish_mem (h : Accumulated record acc) :
    ∃ c ∈ acc.clocks, acc.finish? = some c := by
  obtain ⟨c, hc⟩ := h.exists_clock
  cases hfinish : acc.finish? with
  | none =>
      have hle := h.ordered.le_rank_finish hc
      simp [hfinish] at hle
  | some finish => exact ⟨finish, finish_mem_clocks hfinish, rfl⟩

theorem Accumulated.start_mem (h : Accumulated record acc) :
    ∃ c ∈ acc.clocks, acc.start? = some c := by
  obtain ⟨c, hc⟩ := h.exists_clock
  cases hstart : acc.start? with
  | none =>
      rw [start?_eq_head?, List.head?_eq_none_iff] at hstart
      rw [hstart] at hc
      cases hc
  | some start => exact ⟨start, start_mem_clocks hstart, rfl⟩

/-- The times of the accumulated events are their clocks. -/
theorem Accumulated.times_eq (h : Accumulated record acc) : acc.times = acc.clocks :=
  times_eq_clocks h.clocked

/-- A window holds whatever the record has between the window's ends. -/
theorem IsWindow.mem_clocks (hrecord : Rising record) (hw : IsWindow record w) {c : Instant}
    (hc : c ∈ Event.clocks record) (hstart : rank w.start? ≤ c)
    (hfinish : (c : WithBot Instant) ≤ rank w.finish?) : c ∈ w.clocks := by
  obtain ⟨first, hfirst, hfirst?⟩ := (hw.accumulated hrecord).start_mem
  obtain ⟨last, hlast, hlast?⟩ := (hw.accumulated hrecord).finish_mem
  obtain ⟨before, after, hsplit⟩ := hw.contiguous
  have hrises := hrecord.rises
  rw [← hsplit, Event.clocks_append, Event.clocks_append] at hc hrises
  obtain ⟨hleft, -, hright⟩ := List.pairwise_append.mp hrises
  obtain ⟨-, -, hbefore⟩ := List.pairwise_append.mp hleft
  rcases List.mem_append.mp hc with hc | hc
  · rcases List.mem_append.mp hc with hc | hc
    · rw [hfirst?] at hstart
      exact absurd (WithBot.coe_le_coe.mp hstart) (not_le_of_gt (hbefore c hc first hfirst))
    · exact hc
  · rw [hlast?] at hfinish
    have hlater := hright last (List.mem_append_right _ hlast) c hc
    exact absurd (WithBot.coe_le_coe.mp hfinish) (not_le_of_gt hlater)

/-- In a clocked and ordered timeline a cut leaves exactly the clocks after it. -/
theorem mem_clocks_after_iff (hclocked : ∀ e ∈ acc.events, e.clock?.isSome = true)
    (hordered : acc.Ordered) {at? : Option Instant} {c : Instant} :
    c ∈ (acc.after at?).clocks ↔ c ∈ acc.clocks ∧ rank at? < c := by
  constructor
  · intro hc
    refine ⟨((List.dropWhile_sublist _).filterMap _).subset hc, ?_⟩
    rcases after_cases acc at? with hempty | ⟨dropped, e, rest, hsplit, hafter, hkept⟩
    · simp [clocks, Event.clocks, hempty] at hc
    · have he : e ∈ acc.events := by
        rw [hsplit]
        exact List.mem_append_right _ List.mem_cons_self
      obtain ⟨first, hfirst⟩ := Option.isSome_iff_exists.mp (hclocked e he)
      obtain ⟨t, htime, hlate⟩ := Event.isAfter_iff.mp hafter
      have hfirst_time : t = first :=
        Option.some.inj (htime.symm.trans (Event.clock?_eq_some_iff.mp hfirst).2)
      have hstart : (acc.after at?).start? = some first := by
        rw [start?_eq_head?, clocks, hkept]
        simp [Event.clocks, hfirst]
      have hle := (hordered.after at?).rank_start_le hc
      rw [hstart] at hle
      rw [hfirst_time] at hlate
      exact lt_of_lt_of_le hlate hle
  · rintro ⟨hc, hlate⟩
    exact mem_clocks_after_of_lt hc hlate

/-- A cut of a clocked and ordered timeline leaves no clock short of the cut. -/
theorem Accumulated.not_overshoots {earlier : Timeline} (h : Accumulated record acc) :
    ¬ Overshoots earlier acc := by
  rw [overshoots_iff]
  rintro ⟨c, hc, hshort⟩
  exact absurd hshort (not_lt_of_gt ((mem_clocks_after_iff h.clocked h.ordered).mp hc).2)

/-! ### Merging a window into what is accumulated -/

/-- The place of the window beside the accumulated span lets the moment in. -/
def Admits (acc w : Timeline) (c : Instant) : Prop :=
  rank w.start? < rank acc.start? ∨
    (rank w.start? ≤ rank acc.start? ∧ rank acc.finish? < rank w.finish?) ∨
    rank acc.finish? < c

/-- A window within the accumulated span lets in nothing, although it may lie in a hole. -/
private theorem not_admits_of_covered {c : Instant} (trails : rank acc.start? ≤ rank w.start?)
    (lasts : rank w.finish? ≤ rank acc.finish?) (hc : (c : WithBot Instant) ≤ rank w.finish?) :
    ¬ Admits acc w c := by
  rintro (hleads | ⟨-, houtlasts⟩ | hlate)
  · exact absurd hleads (not_lt_of_ge trails)
  · exact absurd houtlasts (not_lt_of_ge lasts)
  · exact absurd hlate (not_lt_of_ge (hc.trans lasts))

/-- A window that starts first keeps all of itself, and of what is accumulated it drops no more
than it holds. -/
private theorem mem_clocks_of_window_leads {result : Timeline} {c : Instant}
    (hrecord : Rising record) (hacc : Accumulated record acc) (hw : IsWindow record w)
    (leads : rank w.start? < rank acc.start?) (h : Reconciles w acc result) :
    c ∈ result.clocks ↔ c ∈ acc.clocks ∨ c ∈ w.clocks := by
  have hcovered (hc : c ∈ acc.clocks) (hlast : (c : WithBot Instant) ≤ rank w.finish?) :
      c ∈ w.clocks := by
    have hstart := leads.le.trans (hacc.ordered.rank_start_le hc)
    exact hw.mem_clocks hrecord (hacc.within c hc) hstart hlast
  cases h with
  | superseded same outlasted =>
      rw [same.2] at leads
      exact absurd leads (lt_irrefl _)
  | kept same lasts =>
      rw [same.2] at leads
      exact absurd leads (lt_irrefl _)
  | contained apart set lasts =>
      constructor
      · exact Or.inr
      · rintro (hc | hc)
        · exact hcovered hc ((hacc.ordered.le_rank_finish hc).trans lasts)
        · exact hc
  | cut apart outlasted meets =>
      rw [clocks_join, List.mem_append, mem_clocks_after_iff hacc.clocked hacc.ordered]
      constructor
      · rintro (hc | ⟨hc, -⟩)
        · exact Or.inr hc
        · exact Or.inl hc
      · rintro (hc | hc)
        · rcases le_or_gt (c : WithBot Instant) (rank w.finish?) with hle | hlate
          · exact Or.inl (hcovered hc hle)
          · exact Or.inr ⟨hc, hlate⟩
        · exact Or.inl hc
  | appended apart outlasted follows =>
      rw [clocks_join, List.mem_append, or_comm]

/-- What is accumulated and starts first keeps all of itself. -/
private theorem mem_clocks_of_window_trails {result : Timeline} {c : Instant}
    (hrecord : Rising record) (hacc : Accumulated record acc) (hw : IsWindow record w)
    (trails : rank acc.start? ≤ rank w.start?) (h : Reconciles acc w result) :
    c ∈ result.clocks ↔ c ∈ acc.clocks ∨ (c ∈ w.clocks ∧ Admits acc w c) := by
  have hwindow := hw.accumulated hrecord
  have hcovered (lasts : rank w.finish? ≤ rank acc.finish?) :
      c ∈ acc.clocks ↔ c ∈ acc.clocks ∨ (c ∈ w.clocks ∧ Admits acc w c) := by
    constructor
    · exact Or.inl
    · rintro (hc | ⟨hc, hadmits⟩)
      · exact hc
      · have hbound := hwindow.ordered.le_rank_finish hc
        exact absurd hadmits (not_admits_of_covered trails lasts hbound)
  obtain ⟨opening, -, hopening⟩ := hacc.start_mem
  have hset : acc.start?.isSome = true := by simp [hopening]
  have hsame (hle : rank w.start? ≤ rank acc.start?) : SameStart acc w :=
    ⟨hset, rank_injective (le_antisymm trails hle)⟩
  cases h with
  | superseded same outlasted =>
      have hall : Admits acc w c := by
        rw [same.2] at trails
        exact Or.inr (Or.inl ⟨same.2 ▸ le_refl _, outlasted⟩)
      constructor
      · exact fun hc => Or.inr ⟨hc, hall⟩
      · rintro (hc | ⟨hc, -⟩)
        · have hstart := hacc.ordered.rank_start_le hc
          have hfinish := (hacc.ordered.le_rank_finish hc).trans outlasted.le
          exact hw.mem_clocks hrecord (hacc.within c hc) (same.2 ▸ hstart) hfinish
        · exact hc
  | kept same lasts => exact hcovered lasts
  | contained apart set lasts => exact hcovered lasts
  | cut apart outlasted meets =>
      rw [clocks_join, List.mem_append, mem_clocks_after_iff hwindow.clocked hwindow.ordered]
      apply or_congr_right
      apply and_congr_right
      intro hc
      constructor
      · exact fun hlate => Or.inr (Or.inr hlate)
      · rintro (hleads | ⟨hle, -⟩ | hlate)
        · exact absurd hleads (not_lt_of_ge trails)
        · exact absurd (hsame hle) apart
        · exact hlate
  | appended apart outlasted follows =>
      rw [clocks_join, List.mem_append]
      constructor
      · rintro (hc | hc)
        · exact Or.inl hc
        · rcases (follows.trans (hwindow.ordered.rank_start_le hc)).eq_or_lt with hend | hlate
          · -- the window begins exactly where the accumulated span ends
            exact Or.inl (finish_mem_clocks (rank_injective hend))
          · exact Or.inr ⟨hc, Or.inr (Or.inr hlate)⟩
      · rintro (hc | ⟨hc, -⟩)
        · exact Or.inl hc
        · exact Or.inr hc

theorem mem_clocks_merge_window (hrecord : Rising record) (hacc : Accumulated record acc)
    (hw : IsWindow record w) (c : Instant) :
    c ∈ (acc.merge w).clocks ↔ c ∈ acc.clocks ∨ (c ∈ w.clocks ∧ Admits acc w c) := by
  have hmerge := merge_reconciles hacc.isEmpty (hw.accumulated hrecord).isEmpty
  unfold leading trailing at hmerge
  split at hmerge
  · rename_i hbefore
    have leads := precedes_iff.mp hbefore
    have hall : Admits acc w c := Or.inl leads
    simpa [hall] using mem_clocks_of_window_leads hrecord hacc hw leads hmerge
  · rename_i hbefore
    have trails := not_precedes_iff.mp (Bool.not_eq_true _ ▸ hbefore)
    exact mem_clocks_of_window_trails hrecord hacc hw trails hmerge

theorem Accumulated.merge (hrecord : Rising record) (hacc : Accumulated record acc)
    (hw : IsWindow record w) : Accumulated record (acc.merge w) := by
  have hwindow := hw.accumulated hrecord
  have hmem := mem_clocks_merge_window hrecord hacc hw
  obtain ⟨c, hc⟩ := hacc.exists_clock
  have hkept : c ∈ (acc.merge w).clocks := (hmem c).mpr (Or.inl hc)
  constructor
  · intro hempty
    simp [clocks, hempty, Event.clocks] at hkept
  · exact clocked_merge hacc.clocked hwindow.clocked
  · apply (merge_ordered_iff_of_ordered hacc.ordered hwindow.ordered).mpr
    rintro ⟨-, -, -, -, hovershoots⟩
    rcases leading_trailing_cases acc w with ⟨-, ht⟩ | ⟨-, ht⟩
    · rw [ht] at hovershoots
      exact hwindow.not_overshoots hovershoots
    · rw [ht] at hovershoots
      exact hacc.not_overshoots hovershoots
  · intro d hd
    rcases (hmem d).mp hd with hold | ⟨hnew, -⟩
    · exact hacc.within d hold
    · exact hwindow.within d hnew

end NodeHistory.Timeline

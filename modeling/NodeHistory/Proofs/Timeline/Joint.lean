import NodeHistory.Proofs.Timeline.Window

/-!
Merging timelines whose clocks rise strictly. A cut drops what lies at the earlier timeline's end,
but two timelines that meet in that one moment do not overlap, so nothing is cut and the moment
stands twice. This is the only way in which a merge repeats a moment: it happens exactly where the
later timeline begins at the end of the earlier one and they share neither their start nor their
end.
-/

namespace NodeHistory.Timeline

open Time

/-- The later timeline begins where the earlier one ends, which is neither where that one begins
nor the end of both. -/
structure Abuts (earlier later : Timeline) : Prop where
  joint : later.start? = earlier.finish?
  start_ne : later.start? ≠ earlier.start?
  finish_ne : later.finish? ≠ earlier.finish?

instance (earlier later : Timeline) : Decidable (Abuts earlier later) :=
  decidable_of_iff (later.start? = earlier.finish? ∧ later.start? ≠ earlier.start? ∧
      later.finish? ≠ earlier.finish?)
    ⟨fun h => ⟨h.1, h.2.1, h.2.2⟩, fun h => ⟨h.joint, h.start_ne, h.finish_ne⟩⟩

variable {earlier later : Timeline}

/-- There is a moment at which the two meet. -/
theorem Abuts.exists_joint (h : Abuts earlier later) :
    ∃ c, later.start? = some c ∧ earlier.finish? = some c := by
  cases hjoint : later.start? with
  | some c => exact ⟨c, rfl, h.joint.symm.trans hjoint⟩
  | none =>
      have hfinish : earlier.finish? = none := h.joint.symm.trans hjoint
      have hunset := isSome_start? earlier
      rw [hfinish] at hunset
      have hstart : earlier.start? = none := Option.not_isSome_iff_eq_none.mp (by simp [hunset])
      exact absurd (hjoint.trans hstart.symm) h.start_ne

theorem Rising.sublist {events part : List Event} (h : Rising events)
    (hpart : part.Sublist events) : Rising part where
  clocked e he := h.clocked e (hpart.subset he)
  rises := h.rises.sublist (hpart.filterMap _)

theorem Rising.ordered {t : Timeline} (h : Rising t.events) : t.Ordered := h.rises.imp le_of_lt

theorem Ordered.rank_start_le_finish {t : Timeline} (h : t.Ordered) :
    rank t.start? ≤ rank t.finish? := by
  cases hstart : t.start? with
  | none => exact bot_le
  | some c => exact h.le_rank_finish (start_mem_clocks hstart)

theorem rising_join_iff (hearlier : Rising earlier.events) (hlater : Rising later.events) :
    Rising (earlier.join later).events ↔ ∀ c ∈ earlier.clocks, ∀ d ∈ later.clocks, c < d := by
  have hclocks : Event.clocks (earlier.join later).events = earlier.clocks ++ later.clocks :=
    clocks_join earlier later
  constructor
  · intro h
    have hrises := h.rises
    rw [hclocks] at hrises
    exact (List.pairwise_append.mp hrises).2.2
  · intro hacross
    constructor
    · apply (handedOn_join earlier later).clocked
      exact List.forall_mem_append.mpr ⟨hearlier.clocked, hlater.clocked⟩
    · rw [hclocks]
      exact List.pairwise_append.mpr ⟨hearlier.rises, hlater.rises, hacross⟩

/-- Rising timelines reconcile into a rising one, unless they abut. -/
theorem Reconciles.rising_iff {result : Timeline} (h : Reconciles earlier later result)
    (hearlier : Rising earlier.events) (hlater : Rising later.events) :
    Rising result.events ↔ ¬ Abuts earlier later := by
  cases h with
  | superseded same outlasted =>
      exact iff_of_true hlater fun habuts => habuts.start_ne same.2.symm
  | kept same lasts =>
      exact iff_of_true hearlier fun habuts => habuts.start_ne same.2.symm
  | contained apart set lasts =>
      refine iff_of_true hearlier ?_
      intro habuts
      -- the later one begins where the earlier one ends and ends no later, so it ends there too
      have hends : rank earlier.finish? ≤ rank later.finish? :=
        habuts.joint ▸ hlater.ordered.rank_start_le_finish
      exact habuts.finish_ne (rank_injective (le_antisymm lasts hends))
  | cut apart outlasted meets =>
      have hrest : Rising (later.after earlier.finish?).events :=
        hlater.sublist (List.dropWhile_sublist _)
      refine iff_of_true ?_ ?_
      · apply (rising_join_iff hearlier hrest).mpr
        intro c hc d hd
        have hbound := hearlier.ordered.le_rank_finish hc
        have hlate := ((mem_clocks_after_iff hlater.clocked hlater.ordered).mp hd).2
        exact WithBot.coe_lt_coe.mp (hbound.trans_lt hlate)
      · intro habuts
        rw [habuts.joint] at meets
        exact lt_irrefl _ meets
  | appended apart outlasted follows =>
      rw [rising_join_iff hearlier hlater]
      constructor
      · intro hacross habuts
        obtain ⟨c, hstart, hfinish⟩ := habuts.exists_joint
        exact lt_irrefl c (hacross c (finish_mem_clocks hfinish) c (start_mem_clocks hstart))
      · intro hapart c hc d hd
        have hset : earlier.start?.isSome = true := by
          rw [start?_eq_head?]
          exact List.isSome_head?.mpr (List.ne_nil_of_mem hc)
        have hlast := outlasted ((isSome_start? earlier).symm.trans hset)
        have hstrict : rank earlier.finish? < rank later.start? := by
          apply lt_of_le_of_ne follows
          intro hend
          refine hapart ⟨rank_injective hend.symm, ?_, ?_⟩
          · exact fun hstart => apart ⟨hset, hstart.symm⟩
          · exact fun hfinish => hlast.ne (congrArg rank hfinish.symm)
        have hcd : (c : WithBot Instant) < d :=
          calc (c : WithBot Instant) ≤ rank earlier.finish? := hearlier.ordered.le_rank_finish hc
            _ < rank later.start? := hstrict
            _ ≤ d := hlater.ordered.rank_start_le hd
        exact WithBot.coe_lt_coe.mp hcd

theorem Abuts.filled (h : Abuts earlier later) :
    earlier.isEmpty = false ∧ later.isEmpty = false := by
  obtain ⟨c, hstart, hfinish⟩ := h.exists_joint
  constructor
  · cases hempty : earlier.isEmpty with
    | false => rfl
    | true => simp [finish?_of_isEmpty hempty] at hfinish
  · cases hempty : later.isEmpty with
    | false => rfl
    | true => simp [start?_of_isEmpty hempty] at hstart

theorem rising_merge_iff {a b : Timeline} (ha : Rising a.events) (hb : Rising b.events) :
    Rising (a.merge b).events ↔ ¬ Abuts (leading a b) (trailing a b) := by
  by_cases hfilled : a.isEmpty = false ∧ b.isEmpty = false
  · have hmerge := merge_reconciles hfilled.1 hfilled.2
    rcases leading_trailing_cases a b with ⟨hl, ht⟩ | ⟨hl, ht⟩
    · rw [hl, ht] at hmerge ⊢
      exact hmerge.rising_iff ha hb
    · rw [hl, ht] at hmerge ⊢
      exact hmerge.rising_iff hb ha
  · refine iff_of_true ?_ ?_
    · cases hempty : a.isEmpty with
      | true => rwa [merge_of_isEmpty_left b hempty]
      | false => rwa [merge_of_isEmpty_right hempty (by simpa [hempty] using hfilled)]
    · intro habuts
      apply hfilled
      rcases leading_trailing_cases a b with ⟨hl, ht⟩ | ⟨hl, ht⟩
      · rw [hl, ht] at habuts
        exact habuts.filled
      · rw [hl, ht] at habuts
        exact habuts.filled.symm

/-- Two timelines whose events all tell the clock and strictly rise merge into strictly rising times
exactly where the trailing one does not abut on the leading one. -/
theorem merged_times_rise_iff {a b : Timeline} (ha : Rising a.events) (hb : Rising b.events) :
    (a.merge b).times.Pairwise (· < ·) ↔ ¬ Abuts (leading a b) (trailing a b) := by
  have hclocked := clocked_merge ha.clocked hb.clocked
  rw [← rising_merge_iff ha hb, times_eq_clocks hclocked]
  exact ⟨fun hrises => ⟨hclocked, hrises⟩, fun h => h.rises⟩

/-- Bare events of one file with the given times. -/
def bareTimeline (times : List Nat) : Timeline :=
  { events := times.map (Event.bare "/logs/n/error.log") }

/-- The second timeline leads, and both have its last event. -/
theorem shared_end_stands_once :
    Rising (bareTimeline [3, 5, 8]).events ∧ Rising (bareTimeline [1, 3, 5]).events ∧
      ((bareTimeline [3, 5, 8]).merge (bareTimeline [1, 3, 5])).times.Pairwise (· < ·) := by
  have hfirst : Rising (bareTimeline [3, 5, 8]).events := by decide +kernel
  have hsecond : Rising (bareTimeline [1, 3, 5]).events := by decide +kernel
  exact ⟨hfirst, hsecond, (merged_times_rise_iff hfirst hsecond).mpr (by decide +kernel)⟩

/-- Two timelines that have one event in common, the last of the first and the first of the
second. -/
theorem shared_joint_stands_twice :
    ¬ ∀ a b : Timeline, Rising a.events → Rising b.events →
      (a.merge b).times.Pairwise (· < ·) := by
  intro hall
  have hrises := hall (bareTimeline [1, 2]) (bareTimeline [2, 3]) (by decide +kernel)
    (by decide +kernel)
  exact absurd hrises (by decide +kernel)

end NodeHistory.Timeline

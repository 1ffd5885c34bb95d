import NodeHistory.Proofs.Timeline.Joining
import NodeHistory.Proofs.Timeline.Split

/-!
Merging two timelines given in the other order. The one that starts earlier leads wherever it
stands, and of two that start together the one that ends later is kept, so both orders give the
same answer. Only ties are told apart by the order: where neither timeline tells a clock the first
one is put before the second, and where they start and end at the same moments the first is kept.
-/

namespace NodeHistory.Timeline

open Time

variable {a b : Timeline}

theorem swap_swap (answer : Merged) : answer.swap.swap = answer := by
  cases answer <;> rfl

/-- The answers to the two orders are the same: the same timeline kept, or equal new ones. -/
theorem merge_eq_of_swap (h : (merged b a).1 = (merged a b).1.swap) : b.merge a = a.merge b := by
  rw [merge, h, timeline_swap]
  rfl

/-! ### Told apart by their starts -/

private theorem swap_of_trails (ha : a.isEmpty = false) (hb : b.isEmpty = false)
    (h : precedes b.start? a.start? = true) : (merged b a).1 = (merged a b).1.swap := by
  rw [merged_of_trails ha hb h, merged_of_leads hb ha (precedes_asymm h), swap_swap]

theorem swap_of_starts_differ (ha : a.isEmpty = false) (hb : b.isEmpty = false)
    (h : a.start? ≠ b.start?) : (merged b a).1 = (merged a b).1.swap := by
  cases htrails : precedes b.start? a.start? with
  | true => exact swap_of_trails ha hb htrails
  | false =>
      cases hleads : precedes a.start? b.start? with
      | true => rw [swap_of_trails hb ha hleads, swap_swap]
      | false => exact absurd (eq_of_not_precedes hleads htrails) h

theorem swap_of_one_empty (h : a.isEmpty ≠ b.isEmpty) :
    (merged b a).1 = (merged a b).1.swap := by
  cases ha : a.isEmpty with
  | true =>
      have hb : b.isEmpty = false := by simpa [ha] using h
      rw [merged_of_isEmpty_left b ha, merged_of_isEmpty_right hb ha]
      rfl
  | false =>
      have hb : b.isEmpty = true := by simpa [ha] using h
      rw [merged_of_isEmpty_right ha hb, merged_of_isEmpty_left a hb]
      rfl

/-! ### Starting together -/

theorem SameStart.symm (h : SameStart a b) : SameStart b a := ⟨h.2 ▸ h.1, h.2.symm⟩

theorem merged_of_sameStart (h : SameStart a b) :
    (merged a b).1 = if precedes a.finish? b.finish? then .second else .first := by
  have hset := h.symm.1
  have ha := isEmpty_of_start?_isSome h.1
  have hb := isEmpty_of_start?_isSome hset
  have hleads : precedes b.start? a.start? = false := by rw [h.2, precedes_irrefl]
  rw [merged_of_leads ha hb hleads, reconcile]
  simp only [h.2, hset, decide_true, Bool.and_true, if_true]
  split <;> rfl

theorem swap_of_finishes_differ (h : SameStart a b) (hfinish : a.finish? ≠ b.finish?) :
    (merged b a).1 = (merged a b).1.swap := by
  rw [merged_of_sameStart h, merged_of_sameStart h.symm]
  cases hlater : precedes a.finish? b.finish? with
  | true =>
      have hnot := precedes_asymm hlater
      simp [hnot, Merged.swap]
  | false =>
      cases hearlier : precedes b.finish? a.finish? with
      | true => rfl
      | false => exact absurd (eq_of_not_precedes hlater hearlier) hfinish

/-! ### Telling no clock -/

/-- One timeline after the other, the very last event with the identity known by then. -/
def Followed (earlier later : Timeline) (events : List Event) : Prop :=
  ∃ known front last, earlier.last? = some known ∧ later.events = front ++ [last] ∧
    events = earlier.events ++ front ++ [last.inheriting known.provenance]

theorem followed_join (ha : a.isEmpty = false) (hb : b.isEmpty = false) :
    Followed a b (a.join b).events := by
  obtain ⟨known, hknown⟩ : ∃ known, a.last? = some known :=
    Option.isSome_iff_exists.mp (List.getLast?_isSome.mpr (List.isEmpty_eq_false_iff.mp ha))
  obtain ⟨front, last, hb⟩ : ∃ front last, b.events = front ++ [last] :=
    (List.eq_nil_or_concat' b.events).resolve_left (List.isEmpty_eq_false_iff.mp hb)
  refine ⟨known, front, last, hknown, hb, ?_⟩
  rw [join, hknown]
  change a.events ++ Event.inheritLast known.provenance b.events = _
  rw [hb, Event.inheritLast_snoc, List.append_assoc]

/-- A timeline without a clock is put before any other. -/
theorem merged_of_unset (ha : a.isEmpty = false) (hb : b.isEmpty = false)
    (hstart : a.start? = none) : (merged a b).1 = .joined (a.join b) := by
  have hfinish : a.finish? = none := by
    rw [← Option.not_isSome_iff_eq_none, ← isSome_start?, hstart]
    exact Bool.false_ne_true
  rw [merged_of_leads ha hb (by rw [hstart, precedes_none_right]), reconcile]
  simp [hstart, hfinish, precedes_none_right]

/-! ### What the order decides -/

/-- The order of two timelines of which one has events makes no difference to their merge, unless
both are filled and tie: where neither tells a clock each order puts its first one before its
second, and where starts and ends agree each order keeps its first one as it is. -/
theorem merge_order_decides_ties_only (a b : Timeline) :
    ((a.isEmpty ≠ b.isEmpty ∨ a.isEmpty = false ∧ b.isEmpty = false ∧
        (a.start? ≠ b.start? ∨ SameStart a b ∧ a.finish? ≠ b.finish?)) →
      b.merge a = a.merge b ∧ (merged b a).1 = (merged a b).1.swap) ∧
    (a.isEmpty = false → b.isEmpty = false → a.start? = none → b.start? = none →
      Followed a b (a.merge b).events ∧ Followed b a (b.merge a).events) ∧
    (SameStart a b → a.finish? = b.finish? →
      (merged a b).1 = .first ∧ (merged b a).1 = .first) := by
  refine ⟨?_, ?_, ?_⟩
  · intro h
    have hswap : (merged b a).1 = (merged a b).1.swap := by
      rcases h with hempty | ⟨ha, hb, hstarts | ⟨hsame, hfinishes⟩⟩
      · exact swap_of_one_empty hempty
      · exact swap_of_starts_differ ha hb hstarts
      · exact swap_of_finishes_differ hsame hfinishes
    exact ⟨merge_eq_of_swap hswap, hswap⟩
  · intro ha hb hstart hother
    rw [merge, merge, merged_of_unset ha hb hstart, merged_of_unset hb ha hother]
    exact ⟨followed_join ha hb, followed_join hb ha⟩
  · intro hsame hfinish
    rw [merged_of_sameStart hsame, merged_of_sameStart hsame.symm, hfinish, precedes_irrefl]
    exact ⟨rfl, rfl⟩

/-- Segments that overlap, segments without a stamp, and segments that start and end together. -/
theorem exchanged_segments_merged :
    let early : Timeline := { events := [.bare "/logs/n/a.log" 1, .bare "/logs/n/a.log" 4] }
    let late : Timeline := { events := [.bare "/logs/n/b.log" 3, .bare "/logs/n/b.log" 6] }
    let boot : Timeline := { events := [{ message := "boot" }] }
    let halt : Timeline := { events := [{ message := "stop" }, { message := "halt" }] }
    let dense : Timeline := { events :=
      [.bare "/logs/n/c.log" 1, .bare "/logs/n/c.log" 2, .bare "/logs/n/c.log" 4] }
    ((early.isEmpty = false ∧ late.isEmpty = false ∧ early.start? ≠ late.start?) ∧
      late.merge early = early.merge late ∧ (merged late early).1 = (merged early late).1.swap) ∧
    ((boot.start? = none ∧ halt.start? = none) ∧
      Followed boot halt (boot.merge halt).events ∧
      Followed halt boot (halt.merge boot).events) ∧
    ((SameStart early dense ∧ early.finish? = dense.finish?) ∧
      (merged early dense).1 = .first ∧ (merged dense early).1 = .first) := by
  intro early late boot halt dense
  have hstarts : early.start? ≠ late.start? := by decide +kernel
  have hties : SameStart early dense := ⟨by decide +kernel, by decide +kernel⟩
  have hfinish : early.finish? = dense.finish? := by decide +kernel
  obtain ⟨hapart, -, -⟩ := merge_order_decides_ties_only early late
  obtain ⟨-, hunset, -⟩ := merge_order_decides_ties_only boot halt
  obtain ⟨-, -, htied⟩ := merge_order_decides_ties_only early dense
  exact ⟨⟨⟨rfl, rfl, hstarts⟩, hapart (.inr ⟨rfl, rfl, .inl hstarts⟩)⟩,
    ⟨⟨rfl, rfl⟩, hunset rfl rfl rfl rfl⟩, ⟨hties, hfinish⟩, htied hties hfinish⟩

end NodeHistory.Timeline

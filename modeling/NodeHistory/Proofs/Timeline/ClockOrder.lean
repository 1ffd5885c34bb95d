import NodeHistory.Proofs.Timeline.Reconciliation

/-!
When merging keeps the clocks in order. The spans compare authoritative ends, but a cut goes by
events of every file type. So an informational event beyond the cut may stand before clocks short
of it and bring them back behind the earlier timeline's end. `MisplacesClock` says that this
happens, and of two ordered timelines the merge is ordered exactly when it does not.
-/

namespace NodeHistory.Timeline

open Time

theorem Ordered.rank_start_le {t : Timeline} (h : t.Ordered) {c : Instant}
    (hc : c ∈ t.clocks) : rank t.start? ≤ c :=
  Event.rank_startOf_le h hc

theorem Ordered.le_rank_finish {t : Timeline} (h : t.Ordered) {c : Instant}
    (hc : c ∈ t.clocks) : (c : WithBot Instant) ≤ rank t.finish? := by
  unfold Ordered at h
  rw [finish?_eq_getLast?]
  cases hlast : t.clocks.getLast? with
  | none =>
      rw [List.getLast?_eq_none_iff.mp hlast] at hc
      cases hc
  | some last =>
      obtain ⟨before, hclocks⟩ := List.getLast?_eq_some_iff.mp hlast
      rw [hclocks] at h hc
      rcases List.mem_append.mp hc with hbefore | hc
      · simpa using (List.pairwise_append.mp h).2.2 c hbefore last (by simp)
      · simp [List.mem_singleton.mp hc]

theorem ordered_join_iff (earlier later : Timeline) :
    (earlier.join later).Ordered ↔
      earlier.Ordered ∧ later.Ordered ∧ ∀ c ∈ earlier.clocks, ∀ d ∈ later.clocks, c ≤ d := by
  unfold Ordered
  rw [clocks_join]
  exact List.pairwise_append

theorem Ordered.after {t : Timeline} (h : t.Ordered) (at? : Option Instant) :
    (t.after at?).Ordered :=
  h.sublist ((List.dropWhile_sublist _).filterMap _)

/-- What a cut leaves is nothing, or begins with an event after the cut. -/
theorem after_cases (t : Timeline) (at? : Option Instant) :
    (t.after at?).events = [] ∨ ∃ dropped e rest, t.events = dropped ++ e :: rest ∧
      e.isAfter at? = true ∧ (t.after at?).events = e :: rest := by
  cases hkept : (t.after at?).events with
  | nil => exact Or.inl rfl
  | cons e rest =>
      have hkept' : t.events.dropWhile (fun x => !x.isAfter at?) = e :: rest := hkept
      refine Or.inr ⟨t.events.takeWhile (fun x => !x.isAfter at?), e, rest, ?_, ?_, rfl⟩
      · rw [← hkept', List.takeWhile_append_dropWhile]
      · have hhead := List.head_dropWhile_not (fun x : Event => !x.isAfter at?) (l := t.events)
          (by rw [hkept']; exact List.cons_ne_nil _ _)
        simpa [hkept'] using hhead

/-- Whatever follows an event after the cut is left by the cut. -/
theorem suffix_after {t : Timeline} {at? : Option Instant} {dropped rest : List Event}
    {e : Event} (hsplit : t.events = dropped ++ e :: rest) (hafter : e.isAfter at? = true) :
    e :: rest <:+ (t.after at?).events := by
  change e :: rest <:+ t.events.dropWhile (fun x => !x.isAfter at?)
  rw [hsplit, List.dropWhile_append]
  split
  · simp [hafter]
  · exact List.suffix_append _ _

/-- In the later timeline an event beyond the end of the earlier one stands before a clock that
is short of that end. -/
def Overshoots (earlier later : Timeline) : Prop :=
  ∃ dropped e rest, later.events = dropped ++ e :: rest ∧ e.isAfter earlier.finish? = true ∧
    ∃ c ∈ Event.clocks rest, (c : WithBot Instant) < rank earlier.finish?

theorem overshoots_iff {earlier later : Timeline} :
    Overshoots earlier later ↔
      ∃ c ∈ (later.after earlier.finish?).clocks,
        (c : WithBot Instant) < rank earlier.finish? := by
  constructor
  · rintro ⟨dropped, e, rest, hsplit, hafter, c, hc, hshort⟩
    have hsuffix := (suffix_after hsplit hafter).sublist
    have hmember : c ∈ Event.clocks (e :: rest) :=
      ((List.sublist_cons_self e rest).filterMap _).subset hc
    exact ⟨c, (hsuffix.filterMap _).subset hmember, hshort⟩
  · rintro ⟨c, hc, hshort⟩
    rcases after_cases later earlier.finish? with hempty | ⟨dropped, e, rest, hsplit, hafter, hkept⟩
    · simp [clocks, Event.clocks, hempty] at hc
    · refine ⟨dropped, e, rest, hsplit, hafter, c, ?_, hshort⟩
      rw [clocks, hkept] at hc
      obtain ⟨f, hf, hclock⟩ := Event.mem_clocks.mp hc
      rcases List.mem_cons.mp hf with rfl | hf
      · -- the first kept event is after the cut, so its clock cannot be short of it
        obtain ⟨t, htime, ht⟩ := Event.isAfter_iff.mp hafter
        have hct : c = t :=
          Option.some.inj ((Event.clock?_eq_some_iff.mp hclock).2.symm.trans htime)
        subst hct
        exact absurd hshort (not_lt_of_gt ht)
      · exact Event.mem_clocks.mpr ⟨f, hf, hclock⟩

instance (earlier later : Timeline) : Decidable (Overshoots earlier later) :=
  decidable_of_iff _ overshoots_iff.symm

instance (a b : Timeline) : Decidable (SameStart a b) :=
  inferInstanceAs (Decidable (_ ∧ _))

/-! ### Merging any two timelines -/

/-- The earlier timeline ends, and no sooner than the later one. -/
def Covers (earlier later : Timeline) : Prop :=
  earlier.finish?.isSome = true ∧ precedes earlier.finish? later.finish? = false

instance (earlier later : Timeline) : Decidable (Covers earlier later) :=
  inferInstanceAs (Decidable (_ ∧ _))

/-- What is kept of two filled timelines, of which the first leads, is ordered: the one copy of a
recording that is kept alone, or else the leading timeline and what follows from the other. -/
def KeepsOrder (earlier later : Timeline) : Prop :=
  if SameStart earlier later then
    if precedes earlier.finish? later.finish? then later.Ordered else earlier.Ordered
  else
    earlier.Ordered ∧ (¬ Covers earlier later →
      if precedes later.start? earlier.finish? then
        (later.after earlier.finish?).Ordered ∧ ¬ Overshoots earlier later
      else later.Ordered)

instance (earlier later : Timeline) : Decidable (KeepsOrder earlier later) :=
  inferInstanceAs (Decidable (@ite _ _ _ _ _))

/-- What a merge keeps is ordered. -/
def MergesInOrder (a b : Timeline) : Prop :=
  if a.isEmpty then b.Ordered
  else if b.isEmpty then a.Ordered
  else KeepsOrder (leading a b) (trailing a b)

instance (a b : Timeline) : Decidable (MergesInOrder a b) :=
  inferInstanceAs (Decidable (@ite _ _ _ _ _))

private theorem ordered_cut_iff (earlier later : Timeline) :
    (earlier.join (later.after earlier.finish?)).Ordered ↔
      earlier.Ordered ∧ (later.after earlier.finish?).Ordered ∧ ¬ Overshoots earlier later := by
  rw [ordered_join_iff, overshoots_iff]
  apply and_congr_right
  intro hearlier
  apply and_congr_right
  intro _
  constructor
  · rintro hacross ⟨d, hd, hshort⟩
    cases hfinish : earlier.finish? with
    | none => simp [hfinish] at hshort
    | some finish =>
        rw [hfinish] at hd hacross hshort
        have hle := hacross finish (finish_mem_clocks hfinish) d hd
        exact absurd hle (not_le_of_gt (by simpa using hshort))
  · intro hplaced c hc d hd
    have hcfinish := hearlier.le_rank_finish hc
    have hfinish : rank earlier.finish? ≤ d := not_lt.mp fun hshort => hplaced ⟨d, hd, hshort⟩
    exact WithBot.coe_le_coe.mp (hcfinish.trans hfinish)

private theorem ordered_appended_iff {earlier later : Timeline}
    (follows : rank earlier.finish? ≤ rank later.start?) :
    (earlier.join later).Ordered ↔ earlier.Ordered ∧ later.Ordered := by
  rw [ordered_join_iff]
  constructor
  · rintro ⟨hearlier, hlater, -⟩
    exact ⟨hearlier, hlater⟩
  · rintro ⟨hearlier, hlater⟩
    refine ⟨hearlier, hlater, ?_⟩
    intro c hc d hd
    have hcd : (c : WithBot Instant) ≤ d :=
      calc (c : WithBot Instant) ≤ rank earlier.finish? := hearlier.le_rank_finish hc
        _ ≤ rank later.start? := follows
        _ ≤ d := hlater.rank_start_le hd
    exact WithBot.coe_le_coe.mp hcd

private theorem reconciles_ordered_iff {earlier later result : Timeline}
    (h : Reconciles earlier later result) : result.Ordered ↔ KeepsOrder earlier later := by
  cases h with
  | superseded same outlasted => simp [KeepsOrder, same, precedes_iff.mpr outlasted]
  | kept same lasts => simp [KeepsOrder, same, not_precedes_iff.mpr lasts]
  | contained apart set lasts =>
      have hcovers : Covers earlier later := ⟨set, not_precedes_iff.mpr lasts⟩
      simp [KeepsOrder, apart, hcovers]
  | cut apart outlasted meets =>
      have hexceeds : ¬ Covers earlier later := fun hcovers =>
        absurd outlasted (not_lt_of_ge (not_precedes_iff.mp hcovers.2))
      rw [ordered_cut_iff]
      simp [KeepsOrder, apart, hexceeds, precedes_iff.mpr meets]
  | appended apart outlasted follows =>
      have hexceeds : ¬ Covers earlier later := fun hcovers =>
        absurd (outlasted hcovers.1) (not_lt_of_ge (not_precedes_iff.mp hcovers.2))
      rw [ordered_appended_iff follows]
      simp [KeepsOrder, apart, hexceeds, not_precedes_iff.mpr follows]

theorem merge_ordered_iff (a b : Timeline) : (a.merge b).Ordered ↔ MergesInOrder a b := by
  unfold MergesInOrder
  cases hea : a.isEmpty with
  | true => simp [merge_of_isEmpty_left b hea]
  | false =>
      cases heb : b.isEmpty with
      | true => simp [merge_of_isEmpty_right hea heb]
      | false => simpa using reconciles_ordered_iff (merge_reconciles hea heb)

/-! ### Merging ordered timelines -/

/-- Merging cuts the later of two filled timelines and leaves one of its clocks out of place. -/
def MisplacesClock (a b : Timeline) : Prop :=
  a.isEmpty = false ∧ b.isEmpty = false ∧ ¬ SameStart (leading a b) (trailing a b) ∧
    rank (leading a b).finish? < rank (trailing a b).finish? ∧
    Overshoots (leading a b) (trailing a b)

instance (a b : Timeline) : Decidable (MisplacesClock a b) :=
  inferInstanceAs (Decidable (_ ∧ _))

private theorem not_overshoots_of_follows {earlier later : Timeline} (hlater : later.Ordered)
    (follows : rank earlier.finish? ≤ rank later.start?) : ¬ Overshoots earlier later := by
  rw [overshoots_iff]
  rintro ⟨c, hc, hshort⟩
  have hmember : c ∈ later.clocks := ((List.dropWhile_sublist _).filterMap _).subset hc
  have hstart := hlater.rank_start_le hmember
  exact absurd hshort (not_lt_of_ge (follows.trans hstart))

private theorem reconciles_ordered_iff_of_ordered {earlier later result : Timeline}
    (h : Reconciles earlier later result) (hearlier : earlier.Ordered)
    (hlater : later.Ordered) :
    result.Ordered ↔ ¬ (¬ SameStart earlier later ∧
      rank earlier.finish? < rank later.finish? ∧ Overshoots earlier later) := by
  cases h with
  | superseded same outlasted => simp [same, hlater]
  | kept same lasts => simp [same, hearlier]
  | contained apart set lasts => simp [hearlier, not_lt_of_ge lasts]
  | cut apart outlasted meets =>
      rw [ordered_cut_iff]
      simp [apart, outlasted, hearlier, hlater.after]
  | appended apart outlasted follows =>
      rw [ordered_appended_iff follows]
      simp [hearlier, hlater, not_overshoots_of_follows hlater follows]

theorem merge_ordered_iff_of_ordered {a b : Timeline} (ha : a.Ordered) (hb : b.Ordered) :
    (a.merge b).Ordered ↔ ¬ MisplacesClock a b := by
  cases hea : a.isEmpty with
  | true => simp [merge_of_isEmpty_left b hea, hb, MisplacesClock, hea]
  | false =>
      cases heb : b.isEmpty with
      | true => simp [merge_of_isEmpty_right hea heb, ha, MisplacesClock, heb]
      | false =>
          have hmerge := merge_reconciles hea heb
          have hordered : (leading a b).Ordered ∧ (trailing a b).Ordered := by
            rcases leading_trailing_cases a b with ⟨hl, ht⟩ | ⟨hl, ht⟩
            · rw [hl, ht]
              exact ⟨ha, hb⟩
            · rw [hl, ht]
              exact ⟨hb, ha⟩
          rw [reconciles_ordered_iff_of_ordered hmerge hordered.1 hordered.2]
          simp [MisplacesClock, hea, heb]

end NodeHistory.Timeline

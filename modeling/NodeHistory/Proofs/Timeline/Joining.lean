import NodeHistory.Proofs.Timeline.Hull

/-!
When a merge joins its timelines into a new one, and what it appends then. In all other cases it
answers with one of the two as it is.
-/

namespace NodeHistory

/-- Handing a provenance on changes the last event alone. -/
theorem Event.dropLast_inheritLast (earlier : Provenance) (events : List Event) :
    (inheritLast earlier events).dropLast = events.dropLast := by
  fun_induction inheritLast earlier events with
  | case1 => rfl
  | case2 e => rfl
  | case3 e f rest ih =>
      have hfilled : inheritLast earlier (f :: rest) ≠ [] := by
        cases rest <;> exact List.cons_ne_nil _ _
      rw [List.dropLast_cons_of_ne_nil hfilled, ih]
      rfl

namespace Timeline

open Time

variable {earlier later : Timeline}

/-! ### Joins -/

theorem rule_join (earlier later : Timeline) : (earlier.join later).rule = earlier.rule := by
  unfold join
  split <;> rfl

theorem events_join (later : Timeline) (h : earlier.events ≠ []) :
    ∃ known, (earlier.join later).events =
      earlier.events ++ Event.inheritLast known later.events := by
  unfold join
  cases hlast : earlier.last? with
  | none => exact absurd (List.getLast?_eq_none_iff.mp hlast) h
  | some e => exact ⟨e.provenance, rfl⟩

/-- A join is the one timeline after the other, save for the very last event. -/
theorem events_join_snoc (h : earlier.events ≠ []) (hlater : later.events ≠ []) :
    ∃ e, (earlier.join later).last? = some e ∧
      (earlier.join later).events = (earlier.events ++ later.events).dropLast ++ [e] := by
  obtain ⟨known, hevents⟩ := events_join later h
  have hfilled : Event.inheritLast known later.events ≠ [] := by
    intro hnil
    have hmap := Event.map_inheritLast Event.message known (fun _ => rfl) later.events
    rw [hnil] at hmap
    exact hlater (List.map_eq_nil_iff.mp hmap.symm)
  obtain ⟨e, he⟩ := Option.isSome_iff_exists.mp (List.getLast?_isSome.mpr hfilled)
  refine ⟨e, ?_, ?_⟩
  · rw [last?, hevents, List.getLast?_append_of_ne_nil _ hfilled, he]
  · rw [hevents, List.dropLast_append_of_ne_nil hlater, ← Event.dropLast_inheritLast known,
      List.append_assoc, List.dropLast_append_getLast? e he]

/-! ### When merges join -/

/-- The earlier timeline tells no clock, or the two start apart and the later one lasts longer. -/
def Joins (earlier later : Timeline) : Prop :=
  earlier.clocks = [] ∨
    (earlier.start? ≠ later.start? ∧ rank earlier.finish? < rank later.finish?)

/-- What is appended of the later timeline: what lies beyond the earlier one's end if they overlap,
and otherwise all of it. -/
def remainder (earlier later : Timeline) : Timeline :=
  if precedes later.start? earlier.finish? then later.after earlier.finish? else later

theorem remainder_suffix (earlier later : Timeline) :
    (remainder earlier later).events <:+ later.events := by
  unfold remainder
  split
  · exact List.dropWhile_suffix _
  · exact List.suffix_rfl

theorem Joins.remainder_filled (h : Joins earlier later) (hlater : later.isEmpty = false) :
    (remainder earlier later).isEmpty = false := by
  unfold remainder
  split
  · rename_i hmeets
    rcases h with hsilent | ⟨-, outlasted⟩
    · have hfinish : earlier.finish? = none := by simp [finish?_eq_getLast?, hsilent]
      simp [hfinish, precedes_none_right] at hmeets
    · exact after_nonempty outlasted
  · exact hlater

theorem reconcile_joined (h : Joins earlier later) :
    (reconcile earlier later).1 = .joined (earlier.join (remainder earlier later)) := by
  rcases h with hsilent | ⟨apart, outlasted⟩
  · have hstart : earlier.start? = none := by simp [start?_eq_head?, hsilent]
    have hfinish : earlier.finish? = none := by simp [finish?_eq_getLast?, hsilent]
    simp [reconcile, remainder, hstart, hfinish, precedes_none_right]
  · have hlasts := precedes_iff.mpr outlasted
    have hfilled := after_nonempty outlasted
    by_cases hmeets : precedes later.start? earlier.finish? = true
    · simp [reconcile, remainder, apart, hlasts, hmeets, hfilled]
    · simp [reconcile, remainder, apart, hlasts, hmeets]

theorem reconcile_kept (h : ¬ Joins earlier later) :
    (reconcile earlier later).1 = .first ∨ (reconcile earlier later).1 = .second := by
  obtain ⟨htold, hcovered⟩ := not_or.mp h
  have hstart : earlier.start?.isSome = true := by
    rw [start?_eq_head?]
    exact List.isSome_head?.mpr htold
  have hfinish : earlier.finish?.isSome = true := (isSome_start? earlier).symm.trans hstart
  by_cases same : earlier.start? = later.start?
  · by_cases hlater : precedes earlier.finish? later.finish? = true
    · right
      simp [reconcile, same ▸ hstart, same, hlater]
    · left
      simp [reconcile, same ▸ hstart, same, hlater]
  · have hlasts : precedes earlier.finish? later.finish? = false :=
      not_precedes_iff.mpr (not_lt.mp fun hlt => hcovered ⟨same, hlt⟩)
    left
    simp [reconcile, same, hfinish, hlasts]

variable {a b : Timeline}

theorem filled_leading_trailing_iff :
    ((leading a b).events ≠ [] ∧ (trailing a b).events ≠ []) ↔
      (a.isEmpty = false ∧ b.isEmpty = false) := by
  rcases leading_trailing_cases a b with ⟨hl, ht⟩ | ⟨hl, ht⟩
  · simp [hl, ht, isEmpty]
  · simp [hl, ht, isEmpty, and_comm]

theorem merged_joined (ha : a.isEmpty = false) (hb : b.isEmpty = false)
    (h : Joins (leading a b) (trailing a b)) :
    (merged a b).1 = .joined ((leading a b).join (remainder (leading a b) (trailing a b))) := by
  unfold leading trailing at h ⊢
  split at h
  · rename_i htrails
    rw [merged_of_trails ha hb htrails, reconcile_joined h, if_pos htrails, if_pos htrails]
    rfl
  · rename_i hleads
    rw [merged_of_leads ha hb (Bool.not_eq_true _ ▸ hleads), reconcile_joined h, if_neg hleads,
      if_neg hleads]

theorem merged_kept (h : ¬ (a.isEmpty = false ∧ b.isEmpty = false ∧
    Joins (leading a b) (trailing a b))) :
    (merged a b).1 = .first ∨ (merged a b).1 = .second := by
  cases ha : a.isEmpty with
  | true => exact .inr (congrArg Prod.fst (merged_of_isEmpty_left b ha))
  | false =>
      cases hb : b.isEmpty with
      | true => exact .inl (congrArg Prod.fst (merged_of_isEmpty_right ha hb))
      | false =>
          have hkept : ¬ Joins (leading a b) (trailing a b) := fun hjoins => h ⟨ha, hb, hjoins⟩
          unfold leading trailing at hkept
          split at hkept
          · rename_i htrails
            rw [merged_of_trails ha hb htrails]
            rcases reconcile_kept hkept with hfirst | hsecond
            · exact Or.inr (congrArg Merged.swap hfirst)
            · exact Or.inl (congrArg Merged.swap hsecond)
          · rename_i hleads
            rw [merged_of_leads ha hb (Bool.not_eq_true _ ▸ hleads)]
            exact reconcile_kept hkept

end Timeline

end NodeHistory

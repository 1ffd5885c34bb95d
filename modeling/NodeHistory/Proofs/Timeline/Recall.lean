import NodeHistory.Proofs.Timeline.Hull

/-!
A merge as a procedure that calls itself: where the second timeline starts strictly earlier it
exchanges the two and begins anew. One exchange puts the earlier start in front, so a call of the
exchanged timelines never exchanges them back. Past the exchange a cut is made only where the later
timeline outlasts the cut, so it always leaves something to append. Main statement: for any two
timelines, whatever the order of their events, the merge comes to its answer with at most one
exchange, no cut is left empty-handed, and the answer spans the hull of both.
-/

namespace NodeHistory.Timeline

open Time

variable {a b : Timeline} {swaps : Nat} {result : Merged × List MergeNotice}

/-- A call with two timelines comes to an answer, having exchanged them so many times. -/
inductive Called : Timeline → Timeline → Nat → Merged × List MergeNotice → Prop where
  | firstEmpty {a b : Timeline} (hfirst : a.isEmpty = true) : Called a b 0 (.second, [])
  | secondEmpty {a b : Timeline} (hfirst : a.isEmpty = false) (hsecond : b.isEmpty = true) :
      Called a b 0 (.first, [])
  | exchanged {a b : Timeline} {swaps : Nat} {answer : Merged} {notices : List MergeNotice}
      (hfirst : a.isEmpty = false) (hsecond : b.isEmpty = false)
      (trails : precedes b.start? a.start? = true) (again : Called b a swaps (answer, notices)) :
      Called a b (swaps + 1) (answer.swap, notices)
  | reconciled {a b : Timeline} (hfirst : a.isEmpty = false) (hsecond : b.isEmpty = false)
      (leads : precedes b.start? a.start? = false) : Called a b 0 (reconcile a b)

/-- The timelines of a call are filled, and the second one starts strictly earlier. -/
def Exchanges (a b : Timeline) : Prop :=
  a.isEmpty = false ∧ b.isEmpty = false ∧ precedes b.start? a.start? = true

instance (a b : Timeline) : Decidable (Exchanges a b) :=
  inferInstanceAs (Decidable (_ ∧ _ ∧ _))

theorem Exchanges.not_back (h : Exchanges a b) : ¬ Exchanges b a := by
  rintro ⟨-, -, hback⟩
  exact Bool.false_ne_true ((precedes_asymm h.2.2).symm.trans hback)

/-- Without an exchange a call answers at once. -/
theorem called_of_not_exchanges (h : ¬ Exchanges a b) : Called a b 0 (merged a b) := by
  cases ha : a.isEmpty with
  | true =>
      rw [merged_of_isEmpty_left b ha]
      exact .firstEmpty ha
  | false =>
      cases hb : b.isEmpty with
      | true =>
          rw [merged_of_isEmpty_right ha hb]
          exact .secondEmpty ha hb
      | false =>
          have hleads : precedes b.start? a.start? = false := by simpa [Exchanges, ha, hb] using h
          rw [merged_of_leads ha hb hleads]
          exact .reconciled ha hb hleads

/-- An exchange is followed by a call that answers at once. -/
theorem called_of_exchanges (h : Exchanges a b) : Called a b 1 (merged a b) := by
  obtain ⟨ha, hb, htrails⟩ := h
  rw [merged_of_trails ha hb htrails]
  exact .exchanged ha hb htrails (.reconciled hb ha (precedes_asymm htrails))

theorem Called.swaps_eq_zero (h : Called a b swaps result) (hdirect : ¬ Exchanges a b) :
    swaps = 0 := by
  cases h with
  | firstEmpty hfirst => rfl
  | secondEmpty hfirst hsecond => rfl
  | exchanged hfirst hsecond trails again => exact absurd ⟨hfirst, hsecond, trails⟩ hdirect
  | reconciled hfirst hsecond leads => rfl

theorem Called.swaps_le_one (h : Called a b swaps result) : swaps ≤ 1 := by
  cases h with
  | firstEmpty hfirst => exact Nat.zero_le 1
  | secondEmpty hfirst hsecond => exact Nat.zero_le 1
  | exchanged hfirst hsecond trails again =>
      have hexchanges : Exchanges a b := ⟨hfirst, hsecond, trails⟩
      rw [again.swaps_eq_zero hexchanges.not_back]
  | reconciled hfirst hsecond leads => exact Nat.zero_le 1

theorem Called.result_eq (h : Called a b swaps result) : result = merged a b := by
  induction h with
  | firstEmpty hfirst => exact (merged_of_isEmpty_left _ hfirst).symm
  | secondEmpty hfirst hsecond => exact (merged_of_isEmpty_right hfirst hsecond).symm
  | exchanged hfirst hsecond trails again ih =>
      rw [merged_of_leads hsecond hfirst (precedes_asymm trails)] at ih
      rw [merged_of_trails hfirst hsecond trails, ← ih]
  | reconciled hfirst hsecond leads => exact (merged_of_leads hfirst hsecond leads).symm

/-! ### What a cut leaves -/

variable {earlier later : Timeline} {at? : Option Instant}

/-- The later timeline is cut at the end of the earlier one: they start apart, and it starts before
that end and ends after it. -/
def Cuts (earlier later : Timeline) : Prop :=
  ¬ SameStart earlier later ∧ rank later.start? < rank earlier.finish? ∧
    rank earlier.finish? < rank later.finish?

/-- The exit for a cut that leaves nothing is not taken. -/
theorem Cuts.reconcile_eq (h : Cuts earlier later) :
    reconcile earlier later =
      (.joined (earlier.join (later.after earlier.finish?)), [.overlap earlier.finish?]) := by
  obtain ⟨apart, meets, outlasted⟩ := h
  have hapart : ¬ (earlier.start?.isSome && decide (earlier.start? = later.start?)) = true := by
    simpa [SameStart] using apart
  have hlasts : precedes earlier.finish? later.finish? = true := precedes_iff.mpr outlasted
  have hmeets : precedes later.start? earlier.finish? = true := precedes_iff.mpr meets
  simp [reconcile, hapart, hlasts, hmeets, after_nonempty outlasted]

/-- The overlap is told where the later timeline is cut, and nowhere else. -/
theorem overlap_told_iff :
    .overlap at? ∈ (reconcile earlier later).2 ↔ Cuts earlier later ∧ at? = earlier.finish? := by
  constructor
  · intro htold
    unfold reconcile at htold
    dsimp only at htold
    split at htold
    · split at htold <;> simp at htold
    · rename_i hapart
      split at htold
      · simp at htold
      · rename_i hcontained
        split at htold
        · rename_i hmeets
          have meets := precedes_iff.mp hmeets
          have set := isSome_of_rank_lt meets
          have hlasts : precedes earlier.finish? later.finish? = true := by
            simpa [set] using hcontained
          refine ⟨⟨?_, meets, precedes_iff.mp hlasts⟩, by simpa using htold⟩
          simpa [SameStart] using hapart
        · simp at htold
  · rintro ⟨hcuts, rfl⟩
    rw [hcuts.reconcile_eq]
    exact List.mem_cons_self

theorem merged_of_overlap_told (h : .overlap at? ∈ (merged a b).2) :
    Cuts (leading a b) (trailing a b) ∧ at? = (leading a b).finish? ∧
      (merged a b).1 = .joined ((leading a b).join ((trailing a b).after at?)) := by
  cases ha : a.isEmpty with
  | true => simp [merged_of_isEmpty_left b ha] at h
  | false =>
      cases hb : b.isEmpty with
      | true => simp [merged_of_isEmpty_right ha hb] at h
      | false =>
          cases hleads : precedes b.start? a.start? with
          | true =>
              rw [merged_of_trails ha hb hleads] at h ⊢
              obtain ⟨hcuts, rfl⟩ := overlap_told_iff.mp h
              simpa [leading, trailing, hleads, hcuts.reconcile_eq, Merged.swap] using hcuts
          | false =>
              rw [merged_of_leads ha hb hleads] at h ⊢
              obtain ⟨hcuts, rfl⟩ := overlap_told_iff.mp h
              simpa [leading, trailing, hleads, hcuts.reconcile_eq] using hcuts

/-- Whatever the order of their events, two timelines are merged with at most one exchange, a cut
leaves events of the later one, and the answer reaches from the earlier of the set starts to the
later of the ends. -/
theorem merge_spans_hull (a b : Timeline) :
    (a.merge b).start? = Option.merge min a.start? b.start? ∧
    (a.merge b).finish? = Option.merge max a.finish? b.finish? ∧
    (∃ swaps, Called a b swaps (merged a b)) ∧
    (∀ swaps result, Called a b swaps result → swaps ≤ 1 ∧ result = merged a b) ∧
    ∀ at?, .overlap at? ∈ (merged a b).2 →
      ((trailing a b).after at?).isEmpty = false ∧
      (merged a b).1 = .joined ((leading a b).join ((trailing a b).after at?)) := by
  refine ⟨start?_merge a b, finish?_merge a b, ?_, ?_, ?_⟩
  · by_cases hexchanges : Exchanges a b
    · exact ⟨1, called_of_exchanges hexchanges⟩
    · exact ⟨0, called_of_not_exchanges hexchanges⟩
  · intro swaps result hcalled
    exact ⟨hcalled.swaps_le_one, hcalled.result_eq⟩
  · intro at? htold
    obtain ⟨⟨-, -, outlasted⟩, rfl, hanswer⟩ := merged_of_overlap_told htold
    exact ⟨after_nonempty outlasted, hanswer⟩

/-- Clocks 5, 3, 9 merged with clocks 2, 8, 6: the two are exchanged, the former is cut at 6, and
what is left of it, the last event, reaches to 9. -/
theorem unsorted_segments_exchanged_and_cut :
    let late : Timeline := { events :=
      [.bare "/logs/n/error.log.1" 5, .bare "/logs/n/error.log.1" 3,
        .bare "/logs/n/error.log.1" 9] }
    let early : Timeline := { events :=
      [.bare "/logs/n/error.log" 2, .bare "/logs/n/error.log" 8, .bare "/logs/n/error.log" 6] }
    Called late early 1 (merged late early) ∧ .overlap early.finish? ∈ (merged late early).2 ∧
      ((trailing late early).after early.finish?).isEmpty = false ∧
      (late.merge early).start? = early.start? ∧ (late.merge early).finish? = late.finish? := by
  intro late early
  have hexchanges : Exchanges late early := by decide +kernel
  have htold : .overlap early.finish? ∈ (merged late early).2 := by decide +kernel
  obtain ⟨hstart, hfinish, -, -, hcut⟩ := merge_spans_hull late early
  refine ⟨called_of_exchanges hexchanges, htold, (hcut _ htold).1, ?_, ?_⟩
  · rw [hstart]
    decide +kernel
  · rw [hfinish]
    decide +kernel

end NodeHistory.Timeline

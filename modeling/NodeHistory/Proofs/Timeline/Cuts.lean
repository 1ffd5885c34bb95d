import NodeHistory.Proofs.Timeline.ClockOrder
import NodeHistory.Proofs.Timeline.Hull

/-!
Cutting a timeline, once and repeatedly. A cut divides the events in two: no dropped event is after
the moment of the cut, and the first kept one is. There is only one such division, whatever the
order of the events, so that a second cut is found from the first by putting the dropped parts
together. Main statement: a cut is that division, and of two cuts the later one decides alone.
-/

namespace NodeHistory.Timeline

open Time

variable {t : Timeline} {at? x y : Option Instant} {dropped kept : List Event}

/-- The events fall into dropped and kept ones. A dropped event tells no time after the moment, and
the first kept one tells such a time. -/
structure Divides (t : Timeline) (at? : Option Instant) (dropped kept : List Event) : Prop where
  parts : t.events = dropped ++ kept
  up_to : ∀ e ∈ dropped, ∀ c, e.time? = some c → (c : WithBot Instant) ≤ rank at?
  beyond : ∀ e ∈ kept.head?, ∃ c, e.time? = some c ∧ rank at? < c

theorem not_isAfter_iff {e : Event} :
    e.isAfter at? = false ↔ ∀ c, e.time? = some c → (c : WithBot Instant) ≤ rank at? := by
  rw [← Bool.not_eq_true, Event.isAfter_iff]
  simp only [not_exists, not_and, not_lt]

theorem exists_divides_after (t : Timeline) (at? : Option Instant) :
    ∃ dropped, t.Divides at? dropped (t.after at?).events := by
  refine ⟨t.events.takeWhile fun e => !e.isAfter at?, ?_, ?_, ?_⟩
  · exact List.takeWhile_append_dropWhile.symm
  · intro e he
    have hpassed := List.mem_takeWhile_imp he
    exact not_isAfter_iff.mp (by simpa using hpassed)
  · intro e he
    rcases after_cases t at? with hempty | ⟨_, first, rest, -, hafter, hkept⟩
    · simp [hempty] at he
    · obtain rfl : first = e := by simpa [hkept] using he
      exact Event.isAfter_iff.mp hafter

/-- The division tells what the cut keeps. -/
theorem Divides.events_after (h : t.Divides at? dropped kept) : (t.after at?).events = kept := by
  change t.events.dropWhile (fun e => !e.isAfter at?) = kept
  have hdropped : ∀ e ∈ dropped, (!e.isAfter at?) = true := by
    intro e he
    rw [Bool.not_eq_true', not_isAfter_iff]
    exact h.up_to e he
  rw [h.parts, List.dropWhile_append_of_pos hdropped]
  cases kept with
  | nil => rfl
  | cons first rest =>
      have hfirst : first.isAfter at? = true := Event.isAfter_iff.mpr (h.beyond first rfl)
      simp [hfirst]

theorem ext {t u : Timeline} (hevents : t.events = u.events) (hrule : t.rule = u.rule) : t = u := by
  cases t
  cases u
  subst hevents
  subst hrule
  rfl

/-- A later cut drops what the earlier one has dropped, and perhaps more. -/
theorem after_after_of_le (h : rank x ≤ rank y) : (t.after x).after y = t.after y := by
  obtain ⟨first, hfirst⟩ := exists_divides_after t x
  obtain ⟨second, hsecond⟩ := exists_divides_after (t.after x) y
  have hboth : t.Divides y (first ++ second) ((t.after x).after y).events := by
    refine ⟨?_, ?_, hsecond.beyond⟩
    · rw [List.append_assoc, ← hsecond.parts, ← hfirst.parts]
    · intro e he c hc
      rcases List.mem_append.mp he with hearly | hlate
      · exact (hfirst.up_to e hearly c hc).trans h
      · exact hsecond.up_to e hlate c hc
  exact ext hboth.events_after.symm rfl

/-- An earlier cut leaves what the later one has kept. -/
theorem after_after_of_ge (h : rank y ≤ rank x) : (t.after x).after y = t.after x := by
  obtain ⟨first, hfirst⟩ := exists_divides_after t x
  have hnone : (t.after x).Divides y [] (t.after x).events := by
    refine ⟨rfl, List.forall_mem_nil _, ?_⟩
    intro e he
    obtain ⟨c, hc, hbeyond⟩ := hfirst.beyond e he
    exact ⟨c, hc, h.trans_lt hbeyond⟩
  exact ext hnone.events_after rfl

theorem after_after (t : Timeline) (x y : Option Instant) :
    (t.after x).after y = t.after (Option.merge max x y) := by
  rcases le_total (rank x) (rank y) with h | h
  · rw [after_after_of_le h, merge_max_eq_right h]
  · rw [after_after_of_ge h, merge_max_comm, merge_max_eq_right h]

/-- A cut divides the events at the moment, in the one way there is, and keeps the rule of the
timeline. Two cuts come to one at the later of the two moments, an unset one being the earliest, so
that cuts may be made in either order and repeated. -/
theorem cuts_divide_and_compose (t : Timeline) (x y : Option Instant) :
    (∃ dropped, t.Divides x dropped (t.after x).events) ∧
    (∀ dropped kept, t.Divides x dropped kept → (t.after x).events = kept) ∧
    (t.after x).rule = t.rule ∧
    (t.after x).after y = t.after (Option.merge max x y) ∧
    (t.after x).after y = (t.after y).after x ∧
    (t.after x).after x = t.after x := by
  refine ⟨exists_divides_after t x, fun _ _ h => h.events_after, rfl, after_after t x y, ?_, ?_⟩
  · rw [after_after, after_after, merge_max_comm]
  · exact after_after_of_le le_rfl

end NodeHistory.Timeline

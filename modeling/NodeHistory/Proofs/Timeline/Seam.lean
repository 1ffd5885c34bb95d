import NodeHistory.Proofs.Timeline.Joining
import NodeHistory.Proofs.Timeline.RepeatRuns

/-!
Three alike events in a row. Folding leaves none. Slices, cuts and joins put events together as they
are and do not fold, so a merge brings three together when a run of repetitions goes on from one
timeline to the next; they stand where the two meet and nowhere else.
-/

namespace NodeHistory

namespace Event

/-- What alike events have in common. -/
def kind (e : Event) : String × String := (e.pattern, e.message)

theorem alike_iff_kind {a b : Event} : a.Alike b ↔ a.kind = b.kind := by simp [Alike, kind]

/-- No three consecutive events are alike. -/
def TripleFree (events : List Event) : Prop :=
  ∀ a b c, [a, b, c] <:+: events → ¬ (a.Alike b ∧ b.Alike c)

/-- Three alike events in a row where one list goes over into the next: two of them at the end of
the first list and one at the head of the second, or one and two. -/
def RepeatsAcross (front back : List Event) : Prop :=
  ∃ a b c, a.Alike b ∧ b.Alike c ∧
    (([a, b] <:+ front ∧ [c] <+: back) ∨ ([a] <:+ front ∧ [b, c] <+: back))

variable {events other front back : List Event}

theorem TripleFree.of_isInfix (h : TripleFree events) (hpart : other <:+: events) :
    TripleFree other :=
  fun a b c hthree => h a b c (hthree.trans hpart)

theorem tripleFree_of_length (h : events.length ≤ 2) : TripleFree events :=
  fun _ _ _ hthree => absurd hthree.length_le (by simpa using Nat.lt_succ_of_le h)

/-- Only patterns and messages matter. -/
theorem TripleFree.of_map_eq (h : TripleFree events) (hkinds : other.map kind = events.map kind) :
    TripleFree other := by
  rintro a b c hthree ⟨hab, hbc⟩
  have hkept : [a, b, c].map kind <:+: events.map kind := hkinds ▸ hthree.map kind
  obtain ⟨_, horiginals, hmap⟩ := List.infix_map_iff.mp hkept
  obtain ⟨x, _, rfl, hx, hrest⟩ := List.map_eq_cons_iff.mp hmap.symm
  obtain ⟨y, _, rfl, hy, hrest⟩ := List.map_eq_cons_iff.mp hrest
  obtain ⟨z, _, rfl, hz, hrest⟩ := List.map_eq_cons_iff.mp hrest
  obtain rfl := List.map_eq_nil_iff.mp hrest
  have hxy : x.Alike y := alike_iff_kind.mpr ((hx.trans (alike_iff_kind.mp hab)).trans hy.symm)
  have hyz : y.Alike z := alike_iff_kind.mpr ((hy.trans (alike_iff_kind.mp hbc)).trans hz.symm)
  exact h x y z horiginals ⟨hxy, hyz⟩

theorem tripleFree_inheritLast_iff (earlier : Provenance) :
    TripleFree (front ++ inheritLast earlier back) ↔ TripleFree (front ++ back) := by
  have hkinds : (front ++ inheritLast earlier back).map kind = (front ++ back).map kind := by
    rw [List.map_append, List.map_append, map_inheritLast kind earlier fun _ => rfl]
  exact ⟨fun h => h.of_map_eq hkinds.symm, fun h => h.of_map_eq hkinds⟩

/-- Of the infixes of a joint list, those of neither part reach over the seam. -/
theorem tripleFree_append_iff (hfront : TripleFree front) (hback : TripleFree back) :
    TripleFree (front ++ back) ↔ ¬ RepeatsAcross front back := by
  constructor
  · rintro h ⟨a, b, c, hab, hbc, ⟨hends, hbegins⟩ | ⟨hends, hbegins⟩⟩
    · exact h a b c (List.infix_append_iff.mpr (.inr (.inr ⟨[a, b], [c], rfl, hends, hbegins⟩)))
        ⟨hab, hbc⟩
    · exact h a b c (List.infix_append_iff.mpr (.inr (.inr ⟨[a], [b, c], rfl, hends, hbegins⟩)))
        ⟨hab, hbc⟩
  · rintro h a b c hthree ⟨hab, hbc⟩
    rcases List.infix_append_iff.mp hthree with
      hleft | hright | ⟨ends, begins, hsplit, hends, hbegins⟩
    · exact hfront a b c hleft ⟨hab, hbc⟩
    · exact hback a b c hright ⟨hab, hbc⟩
    · match ends with
      | [] =>
          obtain rfl : begins = [a, b, c] := hsplit.symm
          exact hback a b c hbegins.isInfix ⟨hab, hbc⟩
      | [x] =>
          obtain ⟨rfl, rfl⟩ := List.cons.inj hsplit
          exact h ⟨a, b, c, hab, hbc, .inr ⟨hends, hbegins⟩⟩
      | [x, y] =>
          obtain ⟨rfl, rfl, rfl⟩ : a = x ∧ b = y ∧ [c] = begins := by simpa using hsplit
          exact h ⟨a, b, c, hab, hbc, .inl ⟨hends, hbegins⟩⟩
      | x :: y :: z :: rest =>
          obtain ⟨rfl, rfl, rfl, hrest⟩ : a = x ∧ b = y ∧ c = z ∧ rest = [] ∧ begins = [] := by
            simpa using hsplit
          obtain rfl := hrest.1
          exact hfront a b c hends.isInfix ⟨hab, hbc⟩

theorem RepeatsAcross.filled (h : RepeatsAcross front back) : front ≠ [] ∧ back ≠ [] := by
  obtain ⟨a, b, c, -, -, ⟨hends, hbegins⟩ | ⟨hends, hbegins⟩⟩ := h
  · exact ⟨hends.ne_nil (by simp), hbegins.ne_nil (by simp)⟩
  · exact ⟨hends.ne_nil (by simp), hbegins.ne_nil (by simp)⟩

end Event

namespace Timeline

open Event

variable {a b : Timeline}

/-- Of two timelines without three alike events in a row a merge makes one without, except where it
appends to the earlier-starting timeline what it keeps of the other and a run of repetitions goes on
there from the one to the other. -/
theorem merge_tripleFree_iff (ha : TripleFree a.events) (hb : TripleFree b.events) :
    TripleFree (a.merge b).events ↔
      ¬ (Joins (leading a b) (trailing a b) ∧
        RepeatsAcross (leading a b).events (remainder (leading a b) (trailing a b)).events) := by
  have hsuffix := remainder_suffix (leading a b) (trailing a b)
  have hparts : TripleFree (leading a b).events ∧ TripleFree (trailing a b).events := by
    rcases leading_trailing_cases a b with ⟨hl, ht⟩ | ⟨hl, ht⟩
    · rw [hl, ht]
      exact ⟨ha, hb⟩
    · rw [hl, ht]
      exact ⟨hb, ha⟩
  by_cases hjoined : a.isEmpty = false ∧ b.isEmpty = false ∧ Joins (leading a b) (trailing a b)
  · obtain ⟨hea, heb, hjoins⟩ := hjoined
    obtain ⟨known, hevents⟩ := events_join (remainder (leading a b) (trailing a b))
      (filled_leading_trailing_iff.mpr ⟨hea, heb⟩).1
    have hmerge : (a.merge b).events = (leading a b).events ++
        inheritLast known (remainder (leading a b) (trailing a b)).events := by
      rw [merge, merged_joined hea heb hjoins]
      exact hevents
    rw [hmerge, tripleFree_inheritLast_iff,
      tripleFree_append_iff hparts.1 (hparts.2.of_isInfix hsuffix.isInfix)]
    exact not_congr (and_iff_right hjoins).symm
  · have hmerge : TripleFree (a.merge b).events := by
      rw [merge]
      rcases merged_kept hjoined with hfirst | hsecond
      · rw [hfirst]
        exact ha
      · rw [hsecond]
        exact hb
    refine iff_of_true hmerge ?_
    rintro ⟨hjoins, hacross⟩
    have hfilled : (leading a b).events ≠ [] ∧ (trailing a b).events ≠ [] :=
      ⟨hacross.filled.1, hsuffix.ne_nil hacross.filled.2⟩
    obtain ⟨hea, heb⟩ := filled_leading_trailing_iff.mp hfilled
    exact hjoined ⟨hea, heb, hjoins⟩

/-- Two alike events that meet at a seam are not three. -/
theorem pair_across_seam_kept :
    let boot : Event := { bare "/logs/n/error.log" 1 with message := "boot" }
    let ready : Event := { bare "/logs/n/error.log" 4 with message := "ready" }
    let before : Timeline := { events := [boot, bare "/logs/n/error.log" 2] }
    let beyond : Timeline := { events := [bare "/logs/n/error.log" 3, ready] }
    TripleFree before.events ∧ TripleFree beyond.events ∧
      TripleFree (before.merge beyond).events := by
  intro boot ready before beyond
  have hbefore : TripleFree before.events := tripleFree_of_length (by decide)
  have hbeyond : TripleFree beyond.events := tripleFree_of_length (by decide)
  refine ⟨hbefore, hbeyond, (merge_tripleFree_iff hbefore hbeyond).mpr ?_⟩
  rintro ⟨-, x, y, z, hxy, hyz, ⟨hends, -⟩ | ⟨-, hbegins⟩⟩
  · have hpair : [x, y] = before.events := hends.eq_of_length rfl
    obtain ⟨rfl, rfl⟩ : x = boot ∧ y = bare "/logs/n/error.log" 2 := by simpa [before] using hpair
    exact absurd hxy (by decide)
  · have hpair : [y, z] = beyond.events := hbegins.eq_of_length rfl
    obtain ⟨rfl, rfl⟩ : y = bare "/logs/n/error.log" 3 ∧ z = ready := by
      simpa [beyond] using hpair
    exact absurd hyz (by decide)

/-- Neither timeline has three alike events in a row, and appended to one another they have. -/
theorem repetitions_across_seam_not_folded :
    let before : Timeline := { events := [bare "/logs/n/error.log" 1] }
    let beyond : Timeline := { events := [bare "/logs/n/error.log" 2, bare "/logs/n/error.log" 3] }
    TripleFree before.events ∧ TripleFree beyond.events ∧
      ¬ TripleFree (before.merge beyond).events := by
  refine ⟨tripleFree_of_length (by decide), tripleFree_of_length (by decide), fun h => ?_⟩
  exact h (bare "/logs/n/error.log" 1) (bare "/logs/n/error.log" 2) (bare "/logs/n/error.log" 3)
    (by decide) (by decide)

end Timeline

end NodeHistory

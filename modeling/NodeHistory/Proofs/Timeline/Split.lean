import Mathlib.Data.List.Basic
import NodeHistory.Proofs.Timeline.ClockOrder
import NodeHistory.Proofs.Timeline.Hull

/-!
What a merge keeps of its two timelines. Each gives one of its suffixes, which may be empty or the
whole, and the leading timeline's suffix stands first. No event changes but the last one, which may
inherit a provenance. Where the clocks are ordered, every clock that is dropped lies in the span of
the other timeline, so a merge drops only what the other side covers.
-/

namespace NodeHistory

open Time

namespace Event

/-- The event itself, or the event with an earlier provenance handed on to it. -/
def StemsFrom (e original : Event) : Prop :=
  e = original ∨ ∃ earlier, e = original.inheriting earlier

theorem StemsFrom.filePath_eq {e original : Event} (h : e.StemsFrom original) :
    e.provenance.filePath = original.provenance.filePath := by
  rcases h with rfl | ⟨earlier, rfl⟩
  · rfl
  · rfl

theorem StemsFrom.clock?_eq {e original : Event} (h : e.StemsFrom original) :
    e.clock? = original.clock? := by
  rcases h with rfl | ⟨earlier, rfl⟩
  · rfl
  · exact clock?_inheriting original earlier

/-- The same events, except that the very last one may inherit from an earlier provenance. -/
def HandedOn (original result : List Event) : Prop :=
  result = original ∨
    ∃ front e earlier, original = front ++ [e] ∧ result = front ++ [e.inheriting earlier]

theorem inheritLast_snoc (earlier : Provenance) (front : List Event) (e : Event) :
    inheritLast earlier (front ++ [e]) = front ++ [e.inheriting earlier] := by
  induction front with
  | nil => rfl
  | cons first front ih =>
      cases front with
      | nil => rfl
      | cons second front => simpa [inheritLast] using ih

theorem handedOn_inheritLast (earlier : Provenance) (before events : List Event) :
    HandedOn (before ++ events) (before ++ inheritLast earlier events) := by
  rcases List.eq_nil_or_concat' events with rfl | ⟨front, e, rfl⟩
  · exact Or.inl rfl
  · refine Or.inr ⟨before ++ front, e, earlier, ?_, ?_⟩
    · exact (List.append_assoc before front [e]).symm
    · rw [inheritLast_snoc, List.append_assoc]

theorem HandedOn.exists_stemsFrom {original result : List Event} (h : HandedOn original result)
    {e : Event} (he : e ∈ result) : ∃ source ∈ original, e.StemsFrom source := by
  rcases h with rfl | ⟨front, last, earlier, rfl, rfl⟩
  · exact ⟨e, he, Or.inl rfl⟩
  · rcases List.mem_append.mp he with hfront | hlast
    · exact ⟨e, List.mem_append_left _ hfront, Or.inl rfl⟩
    · obtain rfl := List.mem_singleton.mp hlast
      exact ⟨last, by simp, Or.inr ⟨earlier, rfl⟩⟩

/-- Handing a provenance on leaves each event's clock. -/
theorem HandedOn.clocked {original result : List Event} (h : HandedOn original result)
    (hclocked : ∀ e ∈ original, e.clock?.isSome = true) : ∀ e ∈ result, e.clock?.isSome = true := by
  intro e he
  obtain ⟨source, hsource, hstems⟩ := h.exists_stemsFrom he
  rw [hstems.clock?_eq]
  exact hclocked source hsource

end Event

namespace Timeline

/-- The moment lies between the first and the last clock, both included. -/
def Encloses (t : Timeline) (c : Instant) : Prop :=
  ∃ start finish, t.start? = some start ∧ t.finish? = some finish ∧ start ≤ c ∧ c ≤ finish

theorem encloses_of_rank {t : Timeline} {c : Instant} (hstart : rank t.start? ≤ c)
    (hfinish : (c : WithBot Instant) ≤ rank t.finish?) : t.Encloses c := by
  have hset := isSome_start? t
  cases hlast : t.finish? with
  | none => simp [hlast] at hfinish
  | some finish =>
      obtain ⟨start, hfirst⟩ : ∃ start, t.start? = some start := by
        simpa [hlast, Option.isSome_iff_exists] using hset
      rw [hfirst] at hstart
      rw [hlast] at hfinish
      exact ⟨start, finish, hfirst, hlast, WithBot.coe_le_coe.mp hstart,
        WithBot.coe_le_coe.mp hfinish⟩

/-- A timeline's events, parted into what is dropped and the suffix that is kept. -/
structure Split (t : Timeline) where
  dropped : List Event
  kept : List Event
  whole : t.events = dropped ++ kept

namespace Split

variable {t other : Timeline}

def keepAll (t : Timeline) : Split t := ⟨[], t.events, rfl⟩

def keepNone (t : Timeline) : Split t := ⟨t.events, [], (List.append_nil _).symm⟩

/-- Keeps what lies after a moment. -/
def keepAfter (t : Timeline) (at? : Option Instant) : Split t :=
  ⟨t.events.takeWhile fun e => !e.isAfter at?, (t.after at?).events,
    List.takeWhile_append_dropWhile.symm⟩

/-- The other timeline spans every clock that is dropped. -/
def CoveredBy (s : Split t) (other : Timeline) : Prop :=
  ∀ c ∈ Event.clocks s.dropped, other.Encloses c

theorem covered_keepAll (t other : Timeline) : (keepAll t).CoveredBy other := by
  intro c hc
  cases hc

theorem covered_keepNone (ht : t.Ordered) (hstart : rank other.start? ≤ rank t.start?)
    (hfinish : rank t.finish? ≤ rank other.finish?) : (keepNone t).CoveredBy other := by
  intro c hc
  have hlow := hstart.trans (ht.rank_start_le hc)
  have hhigh := (ht.le_rank_finish hc).trans hfinish
  exact encloses_of_rank hlow hhigh

theorem covered_keepAfter (ht : t.Ordered) (hstart : rank other.start? ≤ rank t.start?) :
    (keepAfter t other.finish?).CoveredBy other := by
  intro c hc
  obtain ⟨e, he, hclock⟩ := Event.mem_clocks.mp hc
  have hmember : c ∈ t.clocks :=
    Event.mem_clocks.mpr ⟨e, (List.takeWhile_prefix _).subset he, hclock⟩
  have hshort : e.isAfter other.finish? = false := by simpa using List.mem_takeWhile_imp he
  have hlow := hstart.trans (ht.rank_start_le hmember)
  have hhigh : (c : WithBot Instant) ≤ rank other.finish? := by
    by_contra hlate
    have hafter := Event.isAfter_iff.mpr
      ⟨c, (Event.clock?_eq_some_iff.mp hclock).2, not_le.mp hlate⟩
    simp [hshort] at hafter
  exact encloses_of_rank hlow hhigh

end Split

theorem handedOn_join (earlier later : Timeline) :
    Event.HandedOn (earlier.events ++ later.events) (earlier.join later).events := by
  unfold join
  split
  · exact Or.inl rfl
  · exact Event.handedOn_inheritLast _ _ _

private theorem reconciles_splits {earlier later result : Timeline}
    (leads : rank earlier.start? ≤ rank later.start?) (h : Reconciles earlier later result) :
    ∃ (first : Split earlier) (second : Split later),
      Event.HandedOn (first.kept ++ second.kept) result.events ∧
      (earlier.Ordered → first.CoveredBy later) ∧
      (later.Ordered → second.CoveredBy earlier) := by
  cases h with
  | superseded same outlasted =>
      refine ⟨.keepNone earlier, .keepAll later, Or.inl rfl, ?_, fun _ => Split.covered_keepAll _ _⟩
      exact fun ordered => Split.covered_keepNone ordered (by rw [same.2]) outlasted.le
  | kept same lasts =>
      refine ⟨.keepAll earlier, .keepNone later, Or.inl (List.append_nil _).symm,
        fun _ => Split.covered_keepAll _ _, ?_⟩
      exact fun ordered => Split.covered_keepNone ordered leads lasts
  | contained apart set lasts =>
      refine ⟨.keepAll earlier, .keepNone later, Or.inl (List.append_nil _).symm,
        fun _ => Split.covered_keepAll _ _, ?_⟩
      exact fun ordered => Split.covered_keepNone ordered leads lasts
  | cut apart outlasted meets =>
      refine ⟨.keepAll earlier, .keepAfter later earlier.finish?, handedOn_join _ _,
        fun _ => Split.covered_keepAll _ _, ?_⟩
      exact fun ordered => Split.covered_keepAfter ordered leads
  | appended apart outlasted follows =>
      exact ⟨.keepAll earlier, .keepAll later, handedOn_join _ _,
        fun _ => Split.covered_keepAll _ _, fun _ => Split.covered_keepAll _ _⟩

/-- A merge with an empty timeline keeps the other one. -/
private theorem events_merge_of_isEmpty {a b : Timeline}
    (h : a.isEmpty = true ∨ b.isEmpty = true) :
    (a.merge b).events = (leading a b).events ++ (trailing a b).events := by
  have hresult : (a.merge b).events = a.events ++ b.events := by
    cases hea : a.isEmpty with
    | true => rw [merge_of_isEmpty_left b hea, isEmpty_iff.mp hea, List.nil_append]
    | false =>
        have heb : b.isEmpty = true := by simpa [hea] using h
        rw [merge_of_isEmpty_right hea heb, isEmpty_iff.mp heb, List.append_nil]
  rcases leading_trailing_cases a b with ⟨hl, ht⟩ | ⟨hl, ht⟩
  · rw [hl, ht, hresult]
  · rw [hl, ht, hresult]
    rcases h with hea | heb
    · rw [isEmpty_iff.mp hea, List.nil_append, List.append_nil]
    · rw [isEmpty_iff.mp heb, List.nil_append, List.append_nil]

/-- A merge keeps a suffix of each timeline, the leading one's first. -/
theorem exists_splits (a b : Timeline) :
    ∃ (first : Split (leading a b)) (second : Split (trailing a b)),
      Event.HandedOn (first.kept ++ second.kept) (a.merge b).events ∧
      ((leading a b).Ordered → first.CoveredBy (trailing a b)) ∧
      ((trailing a b).Ordered → second.CoveredBy (leading a b)) := by
  by_cases hempty : a.isEmpty = true ∨ b.isEmpty = true
  · exact ⟨.keepAll _, .keepAll _, Or.inl (events_merge_of_isEmpty hempty),
      fun _ => Split.covered_keepAll _ _, fun _ => Split.covered_keepAll _ _⟩
  · obtain ⟨hea, heb⟩ : a.isEmpty = false ∧ b.isEmpty = false := by simpa using hempty
    exact reconciles_splits (rank_start_leading_le a b) (merge_reconciles hea heb)

/-- Merging makes up no event. -/
theorem exists_stemsFrom_of_mem_merge {a b : Timeline} {e : Event}
    (he : e ∈ (a.merge b).events) :
    ∃ source, (source ∈ a.events ∨ source ∈ b.events) ∧ e.StemsFrom source := by
  obtain ⟨first, second, hresult, -⟩ := exists_splits a b
  obtain ⟨source, hsource, hstems⟩ := hresult.exists_stemsFrom he
  refine ⟨source, ?_, hstems⟩
  have hmember : source ∈ (leading a b).events ∨ source ∈ (trailing a b).events := by
    rw [first.whole, second.whole]
    rcases List.mem_append.mp hsource with hfirst | hsecond
    · exact Or.inl (List.mem_append_right _ hfirst)
    · exact Or.inr (List.mem_append_right _ hsecond)
  rcases leading_trailing_cases a b with ⟨hl, ht⟩ | ⟨hl, ht⟩
  · rwa [hl, ht] at hmember
  · rw [hl, ht] at hmember
    exact hmember.symm

/-- Merging timelines of events that all tell the clock gives such a timeline. -/
theorem clocked_merge {a b : Timeline} (ha : ∀ e ∈ a.events, e.clock?.isSome = true)
    (hb : ∀ e ∈ b.events, e.clock?.isSome = true) :
    ∀ e ∈ (a.merge b).events, e.clock?.isSome = true := by
  intro e he
  obtain ⟨source, hsource, hstems⟩ := exists_stemsFrom_of_mem_merge he
  rw [hstems.clock?_eq]
  rcases hsource with hfirst | hsecond
  · exact ha source hfirst
  · exact hb source hsecond

/-! ### Timelines whose times never go back -/

/-- No event beyond the cut stands before an earlier clock. -/
theorem TimesOrdered.not_overshoots {earlier later : Timeline} (h : later.TimesOrdered) :
    ¬ Overshoots earlier later := by
  rintro ⟨dropped, e, rest, hsplit, hafter, c, hc, hshort⟩
  obtain ⟨t, htime, hlate⟩ := Event.isAfter_iff.mp hafter
  have htimes : later.times = Event.times dropped ++ t :: Event.times rest := by
    simp [times, Event.times, hsplit, htime]
  unfold TimesOrdered at h
  rw [htimes] at h
  have hfollow := (List.pairwise_cons.mp (List.pairwise_append.mp h).2.1).1
  have hle : t ≤ c := hfollow c ((Event.clocks_sublist_times rest).subset hc)
  have hback : (c : WithBot Instant) < t := hshort.trans hlate
  exact absurd (WithBot.coe_lt_coe.mp hback) (not_lt_of_ge hle)

theorem TimesOrdered.merge_ordered {a b : Timeline} (ha : a.TimesOrdered)
    (hb : b.TimesOrdered) : (a.merge b).Ordered := by
  apply (merge_ordered_iff_of_ordered ha.ordered hb.ordered).mpr
  rintro ⟨-, -, -, -, hovershoots⟩
  rcases leading_trailing_cases a b with ⟨-, ht⟩ | ⟨-, ht⟩
  · exact hb.not_overshoots (ht ▸ hovershoots)
  · exact ha.not_overshoots (ht ▸ hovershoots)

/-- Of two timelines whose times never go back a merge keeps suffixes, in order of their starts and
ordered as a whole, and drops no clock but those that the other timeline spans. -/
theorem merge_drops_only_covered {a b : Timeline} (ha : a.TimesOrdered) (hb : b.TimesOrdered) :
    ∃ (first : Split (leading a b)) (second : Split (trailing a b)),
      Event.HandedOn (first.kept ++ second.kept) (a.merge b).events ∧
      (a.merge b).Ordered ∧
      (∀ c ∈ Event.clocks first.dropped, (trailing a b).Encloses c) ∧
      ∀ c ∈ Event.clocks second.dropped, (leading a b).Encloses c := by
  obtain ⟨first, second, hresult, hfirst, hsecond⟩ := exists_splits a b
  have hordered : (leading a b).Ordered ∧ (trailing a b).Ordered := by
    rcases leading_trailing_cases a b with ⟨hl, ht⟩ | ⟨hl, ht⟩
    · rw [hl, ht]
      exact ⟨ha.ordered, hb.ordered⟩
    · rw [hl, ht]
      exact ⟨hb.ordered, ha.ordered⟩
  exact ⟨first, second, hresult, ha.merge_ordered hb, hfirst hordered.1, hsecond hordered.2⟩

/-- A segment that starts late, with an untimed event and a notice behind its first clock. -/
def lateSegment : Timeline :=
  { events := [.bare "/logs/n/error.log.1" 4, { message := "restart" },
      .bare "/logs/n/recovery.log" 7 "recovery.log", .bare "/logs/n/error.log.1" 9] }

/-- A segment that opens with an untimed event and ends within the late one. -/
def earlySegment : Timeline :=
  { events := [{ message := "boot" }, .bare "/logs/n/error.log" 2,
      .bare "/logs/n/error.log" 6 "error.log"] }

/-- The early segment leads although it comes second, and cuts off the late one's clock at 4 and
its untimed event. -/
theorem late_segment_drops_only_covered :
    lateSegment.TimesOrdered ∧ earlySegment.TimesOrdered ∧
    ∃ (first : Split (leading lateSegment earlySegment))
        (second : Split (trailing lateSegment earlySegment)),
      Event.HandedOn (first.kept ++ second.kept) (lateSegment.merge earlySegment).events ∧
      (lateSegment.merge earlySegment).Ordered ∧
      (∀ c ∈ Event.clocks first.dropped, (trailing lateSegment earlySegment).Encloses c) ∧
      ∀ c ∈ Event.clocks second.dropped, (leading lateSegment earlySegment).Encloses c := by
  have hlate : lateSegment.TimesOrdered := by decide +kernel
  have hearly : earlySegment.TimesOrdered := by decide +kernel
  exact ⟨hlate, hearly, merge_drops_only_covered hlate hearly⟩

end Timeline

end NodeHistory

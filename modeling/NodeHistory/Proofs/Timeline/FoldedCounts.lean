import Mathlib.Algebra.GroupWithZero.Nat
import Mathlib.Algebra.Ring.Int.Defs
import Mathlib.Data.List.Nodup
import NodeHistory.Proofs.Timeline.FoldedSpan
import NodeHistory.Proofs.Timeline.Joint

/-!
What the counts of merged timelines add up to. A folded timeline counts every event of its list, but
it counts them at the first event of each run. A cut that falls inside a run drops that first event,
and with it the events of the run that lie beyond the cut, up to the last one. So two overlapping
windows of one record, folded and merged, count each event that they cover once, unless a run of
the later window goes on for two or more events beyond the end of the earlier one.
-/

namespace NodeHistory

open Time

namespace Event

/-- How many occurrences the events stand for, by their counts. -/
def total (events : List Event) : Int := (events.map (·.count)).sum

theorem total_append (first second : List Event) :
    total (first ++ second) = total first + total second := by
  simp [total]

theorem total_inheritLast (earlier : Provenance) (events : List Event) :
    total (inheritLast earlier events) = total events := by
  unfold total
  rw [map_inheritLast (·.count) earlier (fun _ => rfl)]

theorem isAfter_iff_of_clock {at? : Option Instant} {e : Event} {c : Instant}
    (hc : e.clock? = some c) : e.isAfter at? = true ↔ rank at? < c := by
  rw [isAfter_iff]
  simp [(clock?_eq_some_iff.mp hc).2]

/-- What lies after the moment is followed by what does, too. -/
def Advances (at? : Option Instant) (events : List Event) : Prop :=
  events.Pairwise fun a b => a.isAfter at? = true → b.isAfter at? = true

variable {at? : Option Instant} {events run : List Event}

theorem Advances.sublist (h : Advances at? events) {part : List Event}
    (hpart : part.Sublist events) : Advances at? part :=
  List.Pairwise.sublist hpart h

theorem Advances.dropWhile_eq_filter (h : Advances at? events) :
    events.dropWhile (fun e => !e.isAfter at?) = events.filter (·.isAfter at?) := by
  induction events with
  | nil => rfl
  | cons e events ih =>
      obtain ⟨hfirst, hrest⟩ := List.pairwise_cons.mp h
      cases hafter : e.isAfter at? with
      | false => simp [hafter, ih hrest]
      | true =>
          have hall : ∀ x ∈ events, x.isAfter at? = true := fun x hx => hfirst x hx hafter
          simp [hafter, List.filter_eq_self.mpr hall]

/-- How many events of a run lie after the moment and are counted by none that does. -/
def overlooked (at? : Option Instant) : List Event → Nat
  | [] => 0
  | first :: later =>
    if first.isAfter at? then 0 else (later.filter (·.isAfter at?)).length - 1

theorem condensed_cons_concat (first : Event) (between : List Event) (last : Event) :
    condensed (first :: (between ++ [last])) =
      [{ first with count := first.count + between.length }, last] := by
  cases between with
  | nil => simp [condensed]
  | cons second between => simp [condensed]

/-- After the moment a condensed run counts all of its events but the overlooked ones. -/
theorem total_filter_condensed (h : Advances at? run) (once : ∀ e ∈ run, e.count = 1) :
    total ((condensed run).filter (·.isAfter at?)) + overlooked at? run =
      (run.filter (·.isAfter at?)).length := by
  match run with
  | [] => rfl
  | first :: later =>
      have hfirst : first.count = 1 := once first List.mem_cons_self
      have hcounted (n : Int) : isAfter at? { first with count := n } = first.isAfter at? := rfl
      obtain ⟨hfollow, hrest⟩ := List.pairwise_cons.mp h
      rcases List.eq_nil_or_concat' later with rfl | ⟨between, last, rfl⟩
      · cases hafter : first.isAfter at? with
        | false => simp [condensed, overlooked, total, hafter]
        | true => simp [condensed, overlooked, total, hafter, hfirst]
      have hlast : last.count = 1 := once last (by simp)
      rw [condensed_cons_concat]
      cases hafter : first.isAfter at? with
      | true =>
          -- all of the run lies after the moment
          have hall : (between ++ [last]).filter (·.isAfter at?) = between ++ [last] :=
            List.filter_eq_self.mpr fun e he => hfollow e he hafter
          have hlate : last.isAfter at? = true := hfollow last (by simp) hafter
          simp [overlooked, total, hcounted, hafter, hlate, hall, hfirst, hlast]
          omega
      | false =>
          cases hlate : last.isAfter at? with
          | true => simp [overlooked, total, hcounted, hafter, hlate, hlast, Int.add_comm]
          | false =>
              -- none of the run does
              have hnone : between.filter (·.isAfter at?) = [] := by
                have hback := (List.pairwise_append.mp hrest).2.2
                simpa [hlate] using hback
              simp [overlooked, total, hcounted, hafter, hlate, hnone]

theorem total_filter_condensed_runs {runs : List (List Event)} (h : Advances at? runs.flatten)
    (once : ∀ e ∈ runs.flatten, e.count = 1) :
    total ((runs.flatMap condensed).filter (·.isAfter at?)) + (runs.map (overlooked at?)).sum =
      (runs.flatten.filter (·.isAfter at?)).length := by
  induction runs with
  | nil => rfl
  | cons run runs ih =>
      rw [List.flatten_cons] at h once
      have hrun := total_filter_condensed (h.sublist (List.sublist_append_left run _))
        fun e he => once e (List.mem_append_left _ he)
      have hruns := ih (h.sublist (List.sublist_append_right run _))
        fun e he => once e (List.mem_append_right _ he)
      rw [List.flatMap_cons, List.flatten_cons, List.filter_append, List.filter_append,
        total_append, List.map_cons, List.sum_cons, List.length_append, Nat.cast_add, Nat.cast_add]
      omega

theorem total_condensed_runs {runs : List (List Event)}
    (once : ∀ e ∈ runs.flatten, e.count = 1) :
    total (runs.flatMap condensed) = runs.flatten.length := by
  induction runs with
  | nil => rfl
  | cons run runs ih =>
      rw [List.flatten_cons] at once
      have hruns := ih fun e he => once e (List.mem_append_right _ he)
      have hrun : total (condensed run) = run.length := by
        match run with
        | [] => rfl
        | first :: later =>
            have hfirst : first.count = 1 := once first (by simp)
            rcases List.eq_nil_or_concat' later with rfl | ⟨between, last, rfl⟩
            · simp [condensed, total, hfirst]
            · have hlast : last.count = 1 := once last (by simp)
              simp [condensed_cons_concat, total, hfirst, hlast]
              omega
      rw [List.flatMap_cons, List.flatten_cons, total_append, List.length_append, hruns, hrun,
        Nat.cast_add]

/-- A run of alike events goes on for two or more events beyond the moment. -/
def RunCrosses (at? : Option Instant) (events : List Event) : Prop :=
  ∃ x y z, [x, y, z] <:+: events ∧ x.Alike y ∧ y.Alike z ∧ x.isAfter at? = false ∧
    y.isAfter at? = true

theorem exists_crossing_of_overlooked (h : Advances at? run) (hpos : 0 < overlooked at? run) :
    ∃ x y z, [x, y, z] <:+: run ∧ x.isAfter at? = false ∧ y.isAfter at? = true := by
  match run with
  | [] => exact absurd hpos (Nat.lt_irrefl 0)
  | first :: later =>
      cases hfirst : first.isAfter at? with
      | true => simp [overlooked, hfirst] at hpos
      | false =>
          have hlater : Advances at? later := (List.pairwise_cons.mp h).2
          have hwhole :=
            List.takeWhile_append_dropWhile (p := fun e => !e.isAfter at?) (l := later)
          simp only [overlooked, hfirst, ← hlater.dropWhile_eq_filter] at hpos
          match hrest : later.dropWhile fun e => !e.isAfter at? with
          | [] => simp [hrest] at hpos
          | [_] => simp [hrest] at hpos
          | y :: z :: rest =>
              obtain ⟨before, x, hpassed⟩ : ∃ before x,
                  first :: later.takeWhile (fun e => !e.isAfter at?) = before ++ [x] :=
                (List.eq_nil_or_concat' _).resolve_left (List.cons_ne_nil _ _)
              refine ⟨x, y, z, ⟨before, rest, ?_⟩, ?_, ?_⟩
              · rw [← hwhole, hrest, ← List.cons_append, hpassed]
                simp
              · have hx : x ∈ first :: later.takeWhile (fun e => !e.isAfter at?) := by
                  simp [hpassed]
                rcases List.mem_cons.mp hx with rfl | hx
                · exact hfirst
                · simpa using List.mem_takeWhile_imp hx
              · have hy : y ∈ later.filter (·.isAfter at?) := by
                  simp [← hlater.dropWhile_eq_filter, hrest]
                simpa using (List.mem_filter.mp hy).2

theorem overlooked_pos_of_crossing {x y z : Event} (h : Advances at? run)
    (hpart : [x, y, z] <:+: run) (hx : x.isAfter at? = false) (hy : y.isAfter at? = true) :
    0 < overlooked at? run := by
  obtain ⟨before, after, rfl⟩ := hpart
  obtain ⟨first, later, hrun, hpart⟩ : ∃ first later,
      before ++ [x, y, z] ++ after = first :: later ∧ [y, z].Sublist later := by
    cases before with
    | nil => exact ⟨x, y :: z :: after, rfl, by simp⟩
    | cons first before => exact ⟨first, before ++ [x, y, z] ++ after, rfl, by simp⟩
  rw [hrun] at h ⊢
  obtain ⟨hfollow, hlater⟩ := List.pairwise_cons.mp h
  have hfirst : first.isAfter at? = false := by
    have hmember : x ∈ first :: later := by simp [← hrun]
    rcases List.mem_cons.mp hmember with rfl | hmember
    · exact hx
    · by_contra hafter
      have hlate := hfollow x hmember (Bool.not_eq_false _ ▸ hafter)
      exact Bool.false_ne_true (hx.symm.trans hlate)
  have hz : z.isAfter at? = true :=
    (List.pairwise_cons.mp (hlater.sublist hpart)).1 z List.mem_cons_self hy
  have htwo : 2 ≤ (later.filter (·.isAfter at?)).length := by
    simpa [hy, hz] using (hpart.filter (·.isAfter at?)).length_le
  simp only [overlooked, hfirst, Bool.false_eq_true, if_false]
  omega

/-- Of a run that the moment parts, the events beyond it are overlooked, but for one. -/
theorem overlooked_pos_iff (h : Advances at? run) :
    0 < overlooked at? run ↔
      ∃ x y z, [x, y, z] <:+: run ∧ x.isAfter at? = false ∧ y.isAfter at? = true :=
  ⟨exists_crossing_of_overlooked h,
    fun ⟨_, _, _, hpart, hx, hy⟩ => overlooked_pos_of_crossing h hpart hx hy⟩

end Event

namespace Timeline

open Event

variable {runs : List (List Event)} {events : List Event} {at? : Option Instant}

theorem MaximalRuns.runCrosses_iff (h : MaximalRuns runs events) (hadvances : Advances at? events) :
    RunCrosses at? events ↔ ∃ run ∈ runs, 0 < overlooked at? run := by
  have hrun {run : List Event} (hmember : run ∈ runs) : run <:+: events :=
    h.joined ▸ List.infix_of_mem_flatten hmember
  constructor
  · rintro ⟨x, y, z, hpart, hxy, hyz, hx, hy⟩
    have hchain : [x, y, z].IsChain Alike := by simp [hxy, hyz]
    obtain ⟨run, hmember, hinside⟩ := h.exists_run_of_infix (List.cons_ne_nil _ _) hpart hchain
    have hrising := hadvances.sublist (hrun hmember).sublist
    exact ⟨run, hmember, (overlooked_pos_iff hrising).mpr ⟨x, y, z, hinside, hx, hy⟩⟩
  · rintro ⟨run, hmember, hpos⟩
    have hrising := hadvances.sublist (hrun hmember).sublist
    obtain ⟨x, y, z, hinside, hx, hy⟩ := (overlooked_pos_iff hrising).mp hpos
    have halike := h.alike run hmember
    refine ⟨x, y, z, hinside.trans (hrun hmember), ?_, ?_, hx, hy⟩
    · exact halike x (hinside.subset (by simp)) y (hinside.subset (by simp))
    · exact halike y (hinside.subset (by simp)) z (hinside.subset (by simp))

theorem advances_condensed (h : Advances at? runs.flatten) :
    Advances at? (runs.flatMap condensed) := by
  have hends : Advances at? (runs.flatMap ends) := h.sublist (flatMap_ends_sublist runs)
  have hmap := map_flatMap_condensed (isAfter at?) (fun _ _ => rfl) runs
  have hafter : ((runs.flatMap ends).map (isAfter at?)).Pairwise fun a b => a = true → b = true :=
    List.pairwise_map.mpr hends
  rw [← hmap] at hafter
  exact List.pairwise_map.mp hafter

/-- A cut of a folded timeline counts all events beyond it, unless a run crosses it. -/
theorem total_after_folded_iff {t : Timeline} (ht : folded events = .ok t)
    (hadvances : Advances at? events) (once : ∀ e ∈ events, e.count = 1) :
    total (t.after at?).events = (events.filter (·.isAfter at?)).length ↔
      ¬ RunCrosses at? events := by
  obtain ⟨runs, hruns⟩ : ∃ runs, MaximalRuns runs events := ⟨_, maximalRuns_splitBy events⟩
  obtain rfl := Except.ok.inj ((folded_of_maximalRuns hruns).symm.trans ht)
  obtain rfl := hruns.joined
  have hsum := total_filter_condensed_runs hadvances once
  have hcut := (advances_condensed hadvances).dropWhile_eq_filter
  have hpos : 0 < (runs.map (overlooked at?)).sum ↔ ∃ run ∈ runs, 0 < overlooked at? run := by
    rw [List.sum_pos_iff_exists_pos_nat]
    simp
  rw [hruns.runCrosses_iff hadvances, ← hpos]
  simp only [after, derive, hcut]
  omega

/-- A folded timeline counts every event of its list. -/
theorem total_folded {t : Timeline} (ht : folded events = .ok t)
    (once : ∀ e ∈ events, e.count = 1) : total t.events = events.length := by
  obtain ⟨runs, hruns⟩ : ∃ runs, MaximalRuns runs events := ⟨_, maximalRuns_splitBy events⟩
  obtain rfl := Except.ok.inj ((folded_of_maximalRuns hruns).symm.trans ht)
  obtain rfl := hruns.joined
  exact total_condensed_runs once

theorem total_join (earlier later : Timeline) :
    total (earlier.join later).events = total earlier.events + total later.events := by
  unfold join
  split
  · exact total_append _ _
  · exact (total_append _ _).trans (by rw [total_inheritLast])

/-! ### Two windows of one record -/

variable {record v w : List Event} {a b : Timeline}

theorem Rising.advances (h : Rising events) (at? : Option Instant) : Advances at? events := by
  refine (List.pairwise_filterMap.mp h.rises).imp_of_mem ?_
  intro e f he hf hef hafter
  obtain ⟨c, hc⟩ := Option.isSome_iff_exists.mp (h.clocked e he)
  obtain ⟨d, hd⟩ := Option.isSome_iff_exists.mp (h.clocked f hf)
  have hcd : (c : WithBot Instant) < d := WithBot.coe_lt_coe.mpr (hef c hc d hd)
  exact (isAfter_iff_of_clock hd).mpr (((isAfter_iff_of_clock hc).mp hafter).trans hcd)

theorem Rising.nodup (h : Rising events) : events.Nodup := List.Nodup.of_map _ h.nodup_clock

/-- In a window's span lie the window's events, and of the record no others. -/
theorem IsWindow.mem_iff (hrecord : Rising record) (hw : IsWindow record b) {e : Event}
    {c : Instant} (he : e ∈ record) (hc : e.clock? = some c) :
    e ∈ b.events ↔ rank b.start? ≤ c ∧ (c : WithBot Instant) ≤ rank b.finish? := by
  constructor
  · intro hmember
    have hclock : c ∈ b.clocks := Event.mem_clocks.mpr ⟨e, hmember, hc⟩
    have hordered := (hw.accumulated hrecord).ordered
    exact ⟨hordered.rank_start_le hclock, hordered.le_rank_finish hclock⟩
  · rintro ⟨hstart, hfinish⟩
    have hclock : c ∈ Event.clocks record := Event.mem_clocks.mpr ⟨e, he, hc⟩
    obtain ⟨f, hf, hfc⟩ := Event.mem_clocks.mp (hw.mem_clocks hrecord hclock hstart hfinish)
    have hsame : e = f := List.inj_on_of_nodup_map hrecord.nodup_clock he (hw.contiguous.subset hf)
      (hc.trans hfc.symm)
    exact hsame ▸ hf

/-- Of two windows the one that starts later shares with the other what lies up to its end. -/
theorem IsWindow.mem_iff_not_after (hrecord : Rising record) (ha : IsWindow record a)
    (hb : IsWindow record b) (leads : rank a.start? ≤ rank b.start?) {e : Event}
    (he : e ∈ b.events) : e ∈ a.events ↔ e.isAfter a.finish? = false := by
  have hmember := hb.contiguous.subset he
  obtain ⟨c, hc⟩ := Option.isSome_iff_exists.mp (hrecord.clocked e hmember)
  have hlow := leads.trans ((hb.mem_iff hrecord hmember hc).mp he).1
  rw [ha.mem_iff hrecord hmember hc, ← Bool.not_eq_true, isAfter_iff_of_clock hc, not_lt]
  exact and_iff_right hlow

theorem IsWindow.not_after (hrecord : Rising record) (ha : IsWindow record a) {e : Event}
    (he : e ∈ a.events) (lasts : rank a.finish? ≤ rank at?) : e.isAfter at? = false := by
  have hmember := ha.contiguous.subset he
  obtain ⟨c, hc⟩ := Option.isSome_iff_exists.mp (hrecord.clocked e hmember)
  have hhigh := ((ha.mem_iff hrecord hmember hc).mp he).2
  rw [← Bool.not_eq_true, isAfter_iff_of_clock hc]
  exact not_lt_of_ge (hhigh.trans lasts)

/-- Two windows cover the one that starts first and what the other has beyond its end. -/
theorem length_covered (hrecord : Rising record) (ha : IsWindow record a)
    (hb : IsWindow record b) (leads : rank a.start? ≤ rank b.start?) :
    (record.filter fun e => e ∈ a.events ∨ e ∈ b.events).length =
      a.events.length + (b.events.filter (·.isAfter a.finish?)).length := by
  have harising : Rising a.events := hrecord.sublist ha.contiguous.sublist
  have hbrising : Rising b.events := hrecord.sublist hb.contiguous.sublist
  have hnodup : (a.events ++ b.events.filter (·.isAfter a.finish?)).Nodup := by
    refine harising.nodup.append (hbrising.nodup.filter _) ?_
    intro e hea hebeyond
    obtain ⟨heb, hafter⟩ := List.mem_filter.mp hebeyond
    have hnot := (ha.mem_iff_not_after hrecord hb leads heb).mp hea
    exact Bool.false_ne_true (hnot.symm.trans hafter)
  rw [← List.length_append]
  apply List.Perm.length_eq
  apply (List.perm_ext_iff_of_nodup (hrecord.nodup.filter _) hnodup).mpr
  intro e
  rw [List.mem_filter, decide_eq_true_iff, List.mem_append, List.mem_filter]
  constructor
  · rintro ⟨-, hea | heb⟩
    · exact Or.inl hea
    · cases hafter : e.isAfter a.finish? with
      | false => exact Or.inl ((ha.mem_iff_not_after hrecord hb leads heb).mpr hafter)
      | true => exact Or.inr ⟨heb, rfl⟩
  · rintro (hea | ⟨heb, -⟩)
    · exact ⟨ha.contiguous.subset hea, Or.inl hea⟩
    · exact ⟨hb.contiguous.subset heb, Or.inr heb⟩

/-- A window that starts first and lasts covers the other one. -/
theorem length_covered_of_lasts (hrecord : Rising record) (ha : IsWindow record a)
    (hb : IsWindow record b) (leads : rank a.start? ≤ rank b.start?)
    (lasts : rank b.finish? ≤ rank a.finish?) :
    (record.filter fun e => e ∈ a.events ∨ e ∈ b.events).length = a.events.length := by
  have hnone : b.events.filter (·.isAfter a.finish?) = [] :=
    List.filter_eq_nil_iff.mpr fun e he => by simp [hb.not_after hrecord he lasts]
  rw [length_covered hrecord ha hb leads, hnone, List.length_nil, Nat.add_zero]

theorem Rising.exists_lt (h : Rising events) (htwo : 2 ≤ events.length) :
    ∃ e ∈ events, ∃ f ∈ events, ∃ c d, e.clock? = some c ∧ f.clock? = some d ∧ c < d := by
  match events with
  | [] => exact absurd htwo (by simp)
  | [_] => exact absurd htwo (by simp)
  | e :: f :: rest =>
      obtain ⟨c, hc⟩ := Option.isSome_iff_exists.mp (h.clocked e (by simp))
      obtain ⟨d, hd⟩ := Option.isSome_iff_exists.mp (h.clocked f (by simp))
      have hrises := h.rises
      simp only [Event.clocks, List.filterMap_cons_some hc, List.filterMap_cons_some hd] at hrises
      have hcd : c < d := (List.pairwise_cons.mp hrises).1 d List.mem_cons_self
      exact ⟨e, by simp, f, by simp, c, d, hc, hd, hcd⟩

/-- Windows that share two events overlap in more than a moment. -/
theorem start_lt_finish_of_shared (hrecord : Rising record)
    (ha : IsWindow record a) (hb : IsWindow record b)
    (hshared : 2 ≤ (record.filter fun e => e ∈ a.events ∧ e ∈ b.events).length) :
    rank b.start? < rank a.finish? := by
  obtain ⟨e, he, f, hf, c, d, hc, hd, hcd⟩ :=
    (hrecord.sublist List.filter_sublist).exists_lt hshared
  obtain ⟨herecord, heboth⟩ := List.mem_filter.mp he
  obtain ⟨hfrecord, hfboth⟩ := List.mem_filter.mp hf
  have hlow := ((hb.mem_iff hrecord herecord hc).mp (of_decide_eq_true heboth).2).1
  have hhigh := ((ha.mem_iff hrecord hfrecord hd).mp (of_decide_eq_true hfboth).1).2
  exact (hlow.trans_lt (WithBot.coe_lt_coe.mpr hcd)).trans_le hhigh

theorem start?_folded_window (hrecord : Rising record) (hv : IsWindow record { events := v })
    (ha : folded v = .ok a) : a.start? = startOf v ∧ a.isEmpty = false := by
  obtain ⟨hstart, -⟩ := span_folded_of_clocked ha (hv.accumulated hrecord).clocked
  obtain ⟨c, -, hfirst⟩ := (hv.accumulated hrecord).start_mem
  refine ⟨hstart, ?_⟩
  cases hempty : a.isEmpty with
  | false => rfl
  | true =>
      have hunset := (hstart.symm.trans (start?_of_isEmpty hempty)).symm.trans hfirst
      cases hunset

/-- The first window starts first, and a run of the second one goes on for two or more events beyond
the first one's end. -/
def Straddles (v w : List Event) : Prop :=
  rank (startOf v) < rank (startOf w) ∧ RunCrosses (finishOf v) w

private theorem total_reconciled_iff {result : Timeline} (hrecord : Rising record)
    (once : ∀ e ∈ record, e.count = 1) (hv : IsWindow record { events := v })
    (hw : IsWindow record { events := w })
    (hshared : 2 ≤ (record.filter fun e => e ∈ v ∧ e ∈ w).length)
    (ha : folded v = .ok a) (hb : folded w = .ok b) (leads : rank (startOf v) ≤ rank (startOf w))
    (h : Reconciles a b result) :
    total result.events = (record.filter fun e => e ∈ v ∨ e ∈ w).length ↔ ¬ Straddles v w := by
  have honcew : ∀ e ∈ w, e.count = 1 := fun e he => once e (hw.contiguous.subset he)
  have htotala := total_folded ha fun e he => once e (hv.contiguous.subset he)
  obtain ⟨hastart, hafinish⟩ := span_folded_of_clocked ha (hv.accumulated hrecord).clocked
  obtain ⟨hbstart, hbfinish⟩ := span_folded_of_clocked hb (hw.accumulated hrecord).clocked
  cases h with
  | superseded same outlasted =>
      have hstart : rank (startOf v) = rank (startOf w) := by rw [← hastart, ← hbstart, same.2]
      rw [hafinish, hbfinish] at outlasted
      have hlength := length_covered_of_lasts hrecord hw hv hstart.ge outlasted.le
      simp only [or_comm (a := _ ∈ w)] at hlength
      rw [hlength]
      exact iff_of_true (total_folded hb honcew) fun hstraddles => hstraddles.1.ne hstart
  | kept same lasts =>
      have hstart : rank (startOf v) = rank (startOf w) := by rw [← hastart, ← hbstart, same.2]
      rw [hafinish, hbfinish] at lasts
      rw [length_covered_of_lasts hrecord hv hw leads lasts]
      exact iff_of_true htotala fun hstraddles => hstraddles.1.ne hstart
  | contained apart set lasts =>
      rw [hafinish, hbfinish] at lasts
      rw [length_covered_of_lasts hrecord hv hw leads lasts]
      refine iff_of_true htotala ?_
      rintro ⟨-, x, y, z, hpart, -, -, -, hbeyond⟩
      have hwithin := hw.not_after hrecord (hpart.subset (by simp : y ∈ [x, y, z])) lasts
      exact Bool.false_ne_true (hwithin.symm.trans hbeyond)
  | cut apart outlasted meets =>
      have hstarts : rank (startOf v) < rank (startOf w) := by
        refine lt_of_le_of_ne leads fun hsame => apart ⟨?_, ?_⟩
        · exact (isSome_start? a).trans (isSome_of_rank_lt meets)
        · rw [hastart, hbstart]
          exact rank_injective hsame
      have hbeyond : total (b.after (finishOf v)).events =
          (w.filter (·.isAfter (finishOf v))).length ↔ ¬ RunCrosses (finishOf v) w :=
        total_after_folded_iff hb ((hrecord.sublist hw.contiguous.sublist).advances _) honcew
      have hcrosses : Straddles v w ↔ RunCrosses (finishOf v) w := and_iff_right hstarts
      have hlength := length_covered hrecord hv hw leads
      rw [hcrosses, ← hbeyond, total_join, htotala, hafinish, hlength, Nat.cast_add]
      exact Int.add_right_inj _
  | appended apart outlasted follows =>
      have hmeets := start_lt_finish_of_shared hrecord hv hw hshared
      rw [hafinish, hbstart] at follows
      exact absurd hmeets (not_lt_of_ge follows)

/-- Two windows of a record that share two events or more, each folded, merge into as many
occurrences as the record has events in either, unless a run straddles the end of the one that
starts first. -/
theorem merged_total_iff (hrecord : Rising record) (once : ∀ e ∈ record, e.count = 1)
    (hv : v <:+: record) (hw : w <:+: record)
    (hshared : 2 ≤ (record.filter fun e => e ∈ v ∧ e ∈ w).length) :
    ∃ a b, folded v = .ok a ∧ folded w = .ok b ∧
      (total (a.merge b).events = (record.filter fun e => e ∈ v ∨ e ∈ w).length ↔
        ¬ Straddles v w ∧ ¬ Straddles w v) := by
  obtain ⟨a, ha⟩ : ∃ a, folded v = .ok a := ⟨_, folded_of_maximalRuns (maximalRuns_splitBy v)⟩
  obtain ⟨b, hb⟩ : ∃ b, folded w = .ok b := ⟨_, folded_of_maximalRuns (maximalRuns_splitBy w)⟩
  refine ⟨a, b, ha, hb, ?_⟩
  obtain ⟨e, he⟩ : ∃ e, e ∈ record.filter fun e => e ∈ v ∧ e ∈ w :=
    List.exists_mem_of_length_pos (by omega)
  obtain ⟨hev, hew⟩ := of_decide_eq_true (List.mem_filter.mp he).2
  have hvwindow : IsWindow record { events := v } := ⟨List.ne_nil_of_mem hev, hv⟩
  have hwwindow : IsWindow record { events := w } := ⟨List.ne_nil_of_mem hew, hw⟩
  obtain ⟨hastart, hafilled⟩ := start?_folded_window hrecord hvwindow ha
  obtain ⟨hbstart, hbfilled⟩ := start?_folded_window hrecord hwwindow hb
  have hmerge := merge_reconciles hafilled hbfilled
  have hleads := rank_start_leading_le a b
  rcases leading_trailing_cases a b with ⟨hl, ht⟩ | ⟨hl, ht⟩
  · rw [hl, ht] at hmerge hleads
    rw [hastart, hbstart] at hleads
    rw [total_reconciled_iff hrecord once hvwindow hwwindow hshared ha hb hleads hmerge]
    exact (and_iff_left fun hstraddles => absurd hstraddles.1 (not_lt_of_ge hleads)).symm
  · rw [hl, ht] at hmerge hleads
    rw [hastart, hbstart] at hleads
    simp only [and_comm (a := _ ∈ v)] at hshared
    simp only [or_comm (a := _ ∈ v)]
    rw [total_reconciled_iff hrecord once hwwindow hvwindow hshared hb ha hleads hmerge]
    exact (and_iff_right fun hstraddles => absurd hstraddles.1 (not_lt_of_ge hleads)).symm

/-- Events of one file at successive moments, with the given messages. -/
def logged (messages : List String) : List Event :=
  messages.zipIdx.map fun (message, micros) => { bare "/logs/n/error.log" micros with message }

/-- A run that goes on for one event beyond the end of the earlier window. -/
theorem run_ending_beyond_counted :
    let record := logged ["boot", "retry", "retry", "retry", "ready"]
    let v := record.take 3
    let w := record.drop 1
    Rising record ∧ (∀ e ∈ record, e.count = 1) ∧ v <:+: record ∧ w <:+: record ∧
      2 ≤ (record.filter fun e => e ∈ v ∧ e ∈ w).length ∧
      ∃ a b, folded v = .ok a ∧ folded w = .ok b ∧ total (a.merge b).events = 5 ∧
        ¬ Straddles v w ∧ ¬ Straddles w v := by
  intro record v w
  have hrecord : Rising record := by decide +kernel
  have once : ∀ e ∈ record, e.count = 1 := by decide +kernel
  have hv : v <:+: record := (List.take_prefix 3 record).isInfix
  have hw : w <:+: record := (List.drop_suffix 1 record).isInfix
  have hshared : 2 ≤ (record.filter fun e => e ∈ v ∧ e ∈ w).length := by decide +kernel
  obtain ⟨a, b, ha, hb, hiff⟩ := merged_total_iff hrecord once hv hw hshared
  have htotal : total (a.merge b).events = 5 := by
    obtain rfl := Except.ok.inj (ha.symm.trans (folded_of_maximalRuns (maximalRuns_splitBy v)))
    obtain rfl := Except.ok.inj (hb.symm.trans (folded_of_maximalRuns (maximalRuns_splitBy w)))
    decide +kernel
  have hlength : (record.filter fun e => e ∈ v ∨ e ∈ w).length = 5 := by decide +kernel
  have happart := hiff.mp (by rw [htotal, hlength]; rfl)
  exact ⟨hrecord, once, hv, hw, hshared, a, b, ha, hb, htotal, happart⟩

/-- Two events of a run beyond the end of the earlier window, of which one is counted. -/
theorem run_going_on_beyond_not_counted :
    ¬ ∀ (record v w : List Event) (a b : Timeline), Rising record →
      (∀ e ∈ record, e.count = 1) → v <:+: record → w <:+: record →
      2 ≤ (record.filter fun e => e ∈ v ∧ e ∈ w).length → folded v = .ok a → folded w = .ok b →
      total (a.merge b).events = (record.filter fun e => e ∈ v ∨ e ∈ w).length := by
  intro hall
  let record := logged ["boot", "retry", "retry", "retry", "retry"]
  have htotal := hall record (record.take 3) (record.drop 1) _ _ (by decide +kernel)
    (by decide +kernel) (List.take_prefix 3 record).isInfix (List.drop_suffix 1 record).isInfix
    (by decide +kernel) (folded_of_maximalRuns (maximalRuns_splitBy _))
    (folded_of_maximalRuns (maximalRuns_splitBy _))
  exact absurd htotal (by decide +kernel)

end Timeline

end NodeHistory

import NodeHistory.Proofs.Timeline.Clocks
import NodeHistory.Proofs.Timeline.RepeatRuns

/-!
The span of a folded timeline. Folding keeps the two ends of every maximal run and goes by patterns
and messages alone, so the clocks that it keeps are those told at the ends of runs. A run may begin
or end with an untimed or an informational event and tell its clocks in between. The span is kept
exactly when the first clock of all is the first one told at an end of a run, and the last of all
the last one told there. What holds of the last clock is what holds of the first in the reversed
runs.
-/

namespace NodeHistory

open Time

namespace Event

/-- The first and the last event of a run, which may be one and the same. -/
def ends : List Event → List Event
  | [] => []
  | [only] => [only]
  | first :: second :: later =>
    [first, (second :: later).getLast (List.cons_ne_nil second later)]

theorem ends_sublist (run : List Event) : (ends run).Sublist run := by
  match run with
  | [] => exact List.Sublist.refl []
  | [only] => exact List.Sublist.refl [only]
  | first :: second :: later =>
      exact (List.singleton_sublist.mpr (List.getLast_mem _)).cons_cons first

theorem flatMap_ends_sublist (runs : List (List Event)) :
    (runs.flatMap ends).Sublist runs.flatten := by
  induction runs with
  | nil => exact List.Sublist.refl []
  | cons run runs ih => exact (ends_sublist run).append ih

/-- To whatever does not look at counts, a condensed run is its two ends. -/
theorem map_flatMap_condensed {α : Type} (f : Event → α)
    (hf : ∀ (e : Event) (n : Int), f { e with count := n } = f e) (runs : List (List Event)) :
    (runs.flatMap condensed).map f = (runs.flatMap ends).map f := by
  have hrun (run : List Event) : (condensed run).map f = (ends run).map f := by
    match run with
    | [] => rfl
    | [_] => rfl
    | first :: second :: later => simp [condensed, ends, hf]
  simp only [List.map_flatMap, hrun]

theorem clocks_flatMap_condensed (runs : List (List Event)) :
    clocks (runs.flatMap condensed) = clocks (runs.flatMap ends) := by
  have hmap := map_flatMap_condensed clock? (fun _ _ => rfl) runs
  simpa [clocks, List.filterMap_map] using congrArg (List.filterMap id) hmap

theorem head?_ends (run : List Event) : (ends run).head? = run.head? := by
  match run with
  | [] => rfl
  | [_] => rfl
  | _ :: _ :: _ => rfl

theorem head?_flatMap_ends (runs : List (List Event)) :
    (runs.flatMap ends).head? = runs.flatten.head? := by
  induction runs with
  | nil => rfl
  | cons run runs ih =>
      rw [List.flatMap_cons, List.flatten_cons, List.head?_append, List.head?_append, head?_ends,
        ih]

/-- Where every event tells the clock, the last one tells the finish. -/
theorem finishOf_of_clocked {events : List Event} (h : ∀ e ∈ events, e.clock?.isSome = true) :
    finishOf events = events.getLast?.bind clock? := by
  rw [← List.head?_reverse]
  exact startOf_of_clocked fun e he => h e (List.mem_reverse.mp he)

theorem clocks_eq_nil_iff {events : List Event} :
    clocks events = [] ↔ ∀ e ∈ events, e.clock? = none :=
  List.filterMap_eq_nil_iff

theorem startOf_append_of_silent {before : List Event} (h : clocks before = [])
    (events : List Event) : startOf (before ++ events) = startOf events := by
  rw [startOf_eq_head?, startOf_eq_head?, clocks_append, h, List.nil_append]

theorem startOf_append_of_told {events : List Event} (h : clocks events ≠ [])
    (after : List Event) : startOf (events ++ after) = startOf events := by
  rw [startOf_eq_head?, startOf_eq_head?, clocks_append, List.head?_append_of_ne_nil _ h]

theorem clocks_flatten_eq_nil {runs : List (List Event)} (h : ∀ run ∈ runs, clocks run = []) :
    clocks runs.flatten = [] := by
  apply clocks_eq_nil_iff.mpr
  intro e he
  obtain ⟨run, hrun, hmember⟩ := List.mem_flatten.mp he
  exact clocks_eq_nil_iff.mp (h run hrun) e hmember

theorem clocks_flatMap_ends_eq_nil {runs : List (List Event)}
    (h : ∀ run ∈ runs, clocks run = []) : clocks (runs.flatMap ends) = [] := by
  have hsublist : (clocks (runs.flatMap ends)).Sublist (clocks runs.flatten) :=
    (flatMap_ends_sublist runs).filterMap clock?
  rw [clocks_flatten_eq_nil h] at hsublist
  exact List.sublist_nil.mp hsublist

/-- In the first run that tells a clock, this is not the first clock that the ends of runs tell. -/
def HidesStart (runs : List (List Event)) : Prop :=
  ∃ before run after, runs = before ++ run :: after ∧ (∀ r ∈ before, clocks r = []) ∧
    clocks run ≠ [] ∧ startOf ((run :: after).flatMap ends) ≠ startOf run

/-- In the last run that tells a clock, this is not the last clock that the ends of runs tell. -/
def HidesFinish (runs : List (List Event)) : Prop :=
  ∃ before run after, runs = before ++ run :: after ∧ (∀ r ∈ after, clocks r = []) ∧
    clocks run ≠ [] ∧ finishOf ((before ++ [run]).flatMap ends) ≠ finishOf run

theorem startOf_ends_iff (runs : List (List Event)) :
    startOf (runs.flatMap ends) = startOf runs.flatten ↔ ¬ HidesStart runs := by
  have hfirst {before run after} (hruns : runs = before ++ run :: after)
      (hbefore : ∀ r ∈ before, clocks r = []) (hrun : clocks run ≠ []) :
      startOf (runs.flatMap ends) = startOf ((run :: after).flatMap ends) ∧
        startOf runs.flatten = startOf run := by
    rw [hruns, List.flatMap_append, List.flatten_append, List.flatten_cons,
      startOf_append_of_silent (clocks_flatMap_ends_eq_nil hbefore),
      startOf_append_of_silent (clocks_flatten_eq_nil hbefore), startOf_append_of_told hrun]
    exact ⟨rfl, rfl⟩
  constructor
  · rintro hkept ⟨before, run, after, hruns, hbefore, hrun, hhidden⟩
    obtain ⟨hends, hall⟩ := hfirst hruns hbefore hrun
    exact hhidden (hends.symm.trans (hkept.trans hall))
  · intro hshown
    cases htold : runs.find? fun run => clocks run ≠ [] with
    | none =>
        have hsilent : ∀ run ∈ runs, clocks run = [] := by simpa using htold
        rw [startOf_eq_head?, startOf_eq_head?, clocks_flatMap_ends_eq_nil hsilent,
          clocks_flatten_eq_nil hsilent]
    | some run =>
        obtain ⟨hrun, before, after, hruns, hbefore⟩ := List.find?_eq_some_iff_append.mp htold
        have hrun : clocks run ≠ [] := by simpa using hrun
        have hbefore : ∀ r ∈ before, clocks r = [] := by simpa using hbefore
        obtain ⟨hends, hall⟩ := hfirst hruns hbefore hrun
        by_contra hlost
        refine hshown ⟨before, run, after, hruns, hbefore, hrun, ?_⟩
        rwa [← hends, ← hall]

/-! ### Reversed runs -/

theorem ends_surrounded (first last : Event) (middle : List Event) :
    ends (first :: (middle ++ [last])) = [first, last] := by
  cases middle with
  | nil => rfl
  | cons second later => simp [ends]

theorem ends_reverse (run : List Event) : ends run.reverse = (ends run).reverse := by
  cases run with
  | nil => rfl
  | cons first rest =>
      obtain rfl | ⟨middle, last, rfl⟩ := List.eq_nil_or_concat' rest
      · rfl
      · have hreversed : (first :: (middle ++ [last])).reverse =
            last :: (middle.reverse ++ [first]) := by simp
        rw [hreversed, ends_surrounded, ends_surrounded]
        rfl

/-- The runs of the reversed events. -/
def mirrored (runs : List (List Event)) : List (List Event) := (runs.map List.reverse).reverse

theorem mirrored_mirrored (runs : List (List Event)) : mirrored (mirrored runs) = runs := by
  simp [mirrored]

theorem mirrored_split (before after : List (List Event)) (run : List Event) :
    mirrored (before ++ run :: after) = mirrored after ++ run.reverse :: mirrored before := by
  simp [mirrored]

theorem flatten_mirrored (runs : List (List Event)) :
    (mirrored runs).flatten = runs.flatten.reverse :=
  List.reverse_flatten.symm

theorem flatMap_ends_mirrored (runs : List (List Event)) :
    (mirrored runs).flatMap ends = (runs.flatMap ends).reverse := by
  simp [mirrored, List.flatMap_def, List.reverse_flatten, ends_reverse, Function.comp_def]

theorem clocks_reverse (events : List Event) : clocks events.reverse = (clocks events).reverse :=
  List.filterMap_reverse

theorem silent_mirrored {runs : List (List Event)} (h : ∀ r ∈ runs, clocks r = []) :
    ∀ r ∈ mirrored runs, clocks r = [] := by
  intro r hr
  obtain ⟨run, hrun, rfl⟩ := List.mem_map.mp (List.mem_reverse.mp hr)
  rw [clocks_reverse, h run hrun, List.reverse_nil]

theorem startOf_ends_mirrored (before : List (List Event)) (run : List Event) :
    startOf ((run.reverse :: mirrored before).flatMap ends) =
      finishOf ((before ++ [run]).flatMap ends) := by
  have hmirrored : run.reverse :: mirrored before = mirrored (before ++ [run]) :=
    (mirrored_split before [] run).symm
  rw [hmirrored, flatMap_ends_mirrored]
  rfl

theorem hidesStart_mirrored_iff {runs : List (List Event)} :
    HidesStart (mirrored runs) ↔ HidesFinish runs := by
  constructor
  · rintro ⟨before, run, after, hruns, hbefore, hrun, hhidden⟩
    refine ⟨mirrored after, run.reverse, mirrored before, ?_, silent_mirrored hbefore, ?_, ?_⟩
    · rw [← mirrored_split, ← hruns, mirrored_mirrored]
    · simpa [clocks_reverse] using hrun
    · rw [← startOf_ends_mirrored, List.reverse_reverse, mirrored_mirrored]
      simpa [finishOf_eq_getLast?, startOf_eq_head?, clocks_reverse] using hhidden
  · rintro ⟨before, run, after, rfl, hafter, hrun, hhidden⟩
    refine ⟨mirrored after, run.reverse, mirrored before, mirrored_split before after run,
      silent_mirrored hafter, ?_, ?_⟩
    · simpa [clocks_reverse] using hrun
    · rw [startOf_ends_mirrored]
      exact hhidden

theorem finishOf_ends_iff (runs : List (List Event)) :
    finishOf (runs.flatMap ends) = finishOf runs.flatten ↔ ¬ HidesFinish runs := by
  have hstart := startOf_ends_iff (mirrored runs)
  rwa [flatMap_ends_mirrored, flatten_mirrored, hidesStart_mirrored_iff] at hstart

theorem getLast?_flatMap_ends (runs : List (List Event)) :
    (runs.flatMap ends).getLast? = runs.flatten.getLast? := by
  rw [← List.head?_reverse, ← List.head?_reverse, ← flatMap_ends_mirrored, ← flatten_mirrored,
    head?_flatMap_ends]

end Event

namespace Timeline

open Event

variable {runs : List (List Event)} {events : List Event}

theorem start?_folded {t : Timeline} (h : MaximalRuns runs events) (ht : folded events = .ok t) :
    t.start? = startOf (runs.flatMap ends) := by
  obtain rfl := Except.ok.inj ((folded_of_maximalRuns h).symm.trans ht)
  rw [start?_eq_head?, startOf_eq_head?, Timeline.clocks, clocks_flatMap_condensed]

theorem finish?_folded {t : Timeline} (h : MaximalRuns runs events) (ht : folded events = .ok t) :
    t.finish? = finishOf (runs.flatMap ends) := by
  obtain rfl := Except.ok.inj ((folded_of_maximalRuns h).symm.trans ht)
  rw [finish?_eq_getLast?, finishOf_eq_getLast?, Timeline.clocks, clocks_flatMap_condensed]

/-- Where every event tells the clock, folding keeps the span. -/
theorem span_folded_of_clocked {t : Timeline} (ht : folded events = .ok t)
    (h : ∀ e ∈ events, e.clock?.isSome = true) :
    t.start? = startOf events ∧ t.finish? = finishOf events := by
  have hruns := maximalRuns_splitBy events
  have hends : ∀ e ∈ (events.splitBy fun a b => a.Alike b).flatMap ends,
      e.clock?.isSome = true := by
    intro e he
    exact h e (hruns.joined ▸ (flatMap_ends_sublist _).subset he)
  rw [start?_folded hruns ht, finish?_folded hruns ht, startOf_of_clocked hends,
    finishOf_of_clocked hends, startOf_of_clocked h, finishOf_of_clocked h, head?_flatMap_ends,
    getLast?_flatMap_ends, hruns.joined]
  exact ⟨rfl, rfl⟩

/-- A folded timeline starts and finishes as its events do, unless a run hides the clock that it
tells first or last. -/
theorem folded_span_kept_iff (events : List Event) :
    ∃ runs t, MaximalRuns runs events ∧ folded events = .ok t ∧
      (t.start? = startOf events ↔ ¬ HidesStart runs) ∧
      (t.finish? = finishOf events ↔ ¬ HidesFinish runs) := by
  have hruns := maximalRuns_splitBy events
  have hfolded := folded_of_maximalRuns hruns
  refine ⟨_, _, hruns, hfolded, ?_, ?_⟩
  · rw [start?_folded hruns hfolded, ← startOf_ends_iff, hruns.joined]
  · rw [finish?_folded hruns hfolded, ← finishOf_ends_iff, hruns.joined]

/-- The same message three times, the latest one untimed: the second moment is lost. -/
theorem untimed_latest_loses_finish :
    ¬ ∀ (events : List Event) (t : Timeline), folded events = .ok t →
      t.start? = startOf events ∧ t.finish? = finishOf events := by
  intro hall
  let events := [bare "/logs/n/error.log" 1, bare "/logs/n/error.log" 2, {}]
  have hkept := hall events _ (folded_of_maximalRuns (maximalRuns_splitBy events))
  exact absurd hkept.2 (by decide +kernel)

end Timeline

end NodeHistory

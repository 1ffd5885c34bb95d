import Mathlib.Data.List.SplitBy
import NodeHistory.Timeline.Basic

/-!
Folding as compression of runs. Events of one pattern and one message are alike, and every list of
events parts in one way into maximal runs of alike ones. Folding decides by the two entries stored
last and rewrites both, yet what it stores is each maximal run condensed to its first and last
event. The rule is that of equal patterns; times, provenances and counts play no part in it.
-/

namespace NodeHistory

namespace Event

/-- Of one pattern and one message. -/
def Alike (a b : Event) : Prop := a.pattern = b.pattern ∧ a.message = b.message

instance (a b : Event) : Decidable (a.Alike b) := inferInstanceAs (Decidable (_ ∧ _))

theorem Alike.symm {a b : Event} (h : a.Alike b) : b.Alike a := ⟨h.1.symm, h.2.symm⟩

theorem Alike.trans {a b c : Event} (hab : a.Alike b) (hbc : b.Alike c) : a.Alike c :=
  ⟨hab.1.trans hbc.1, hab.2.trans hbc.2⟩

instance : Std.Symm Alike := ⟨fun _ _ => Alike.symm⟩

instance : Trans Alike Alike Alike := ⟨Alike.trans⟩

/-- What folding leaves of a run: the first event, which counts all that follow but the last, and
the last event as it is. -/
def condensed : List Event → List Event
  | [] => []
  | [only] => [only]
  | first :: second :: later =>
    [{ first with count := first.count + later.length },
      (second :: later).getLast (List.cons_ne_nil second later)]

theorem condensed_condensed (run : List Event) : condensed (condensed run) = condensed run := by
  match run with
  | [] => rfl
  | [_] => rfl
  | first :: second :: later => simp [condensed]

theorem length_condensed_le (run : List Event) : (condensed run).length ≤ 2 := by
  match run with
  | [] => exact Nat.zero_le 2
  | [_] => exact Nat.le_succ 1
  | _ :: _ :: _ => exact le_rfl

theorem condensed_ne_nil {run : List Event} (h : run ≠ []) : condensed run ≠ [] := by
  match run with
  | [] => exact absurd rfl h
  | [only] => exact List.cons_ne_nil only []
  | _ :: _ :: _ => exact List.cons_ne_nil _ _

theorem getLast?_condensed (run : List Event) : (condensed run).getLast? = run.getLast? := by
  match run with
  | [] => rfl
  | [_] => rfl
  | first :: second :: later =>
      rw [condensed, List.getLast?_cons_cons, List.getLast?_cons_cons]
      exact (List.getLast?_eq_some_getLast _).symm

theorem exists_alike_of_mem_condensed {run : List Event} {e : Event} (he : e ∈ condensed run) :
    ∃ original ∈ run, e.Alike original := by
  match run with
  | [] => cases he
  | [only] => exact ⟨e, he, rfl, rfl⟩
  | first :: second :: later =>
      rcases List.mem_cons.mp he with hfirst | hlast
      · exact ⟨first, List.mem_cons_self, by rw [hfirst]; exact ⟨rfl, rfl⟩⟩
      · obtain rfl := List.mem_singleton.mp hlast
        exact ⟨_, List.mem_cons_of_mem _ (List.getLast_mem _), rfl, rfl⟩

end Event

namespace Timeline

open Event

/-! ### Maximal runs -/

/-- The events, parted into runs of alike ones, with no run alike to the next. -/
structure MaximalRuns (runs : List (List Event)) (events : List Event) : Prop where
  joined : runs.flatten = events
  filled : [] ∉ runs
  alike : ∀ run ∈ runs, ∀ a ∈ run, ∀ b ∈ run, a.Alike b
  apart : runs.IsChain fun left right => ∀ a ∈ left, ∀ b ∈ right, ¬ a.Alike b

variable {runs other : List (List Event)} {events : List Event}

private theorem alike_of_mem_splitBy {run : List Event}
    (h : run ∈ events.splitBy fun a b => a.Alike b) : ∀ a ∈ run, ∀ b ∈ run, a.Alike b := by
  have hchain : run.IsChain Alike := by simpa using List.isChain_of_mem_splitBy h
  exact (List.isChain_iff_pairwise.mp hchain).forall_of_forall fun _ _ => ⟨rfl, rfl⟩

theorem maximalRuns_splitBy (events : List Event) :
    MaximalRuns (events.splitBy fun a b => a.Alike b) events where
  joined := List.flatten_splitBy _ events
  filled := List.nil_notMem_splitBy _ events
  alike _ hrun := alike_of_mem_splitBy hrun
  apart := by
    refine (List.isChain_getLast_head_splitBy _ events).imp_of_mem_imp ?_
    rintro left right hleft hright ⟨hends, hbegins, hunlike⟩ a ha b hb hab
    have hend : (left.getLast hends).Alike a :=
      alike_of_mem_splitBy hleft _ (List.getLast_mem hends) a ha
    have hbegin : b.Alike (right.head hbegins) :=
      alike_of_mem_splitBy hright b hb _ (List.head_mem hbegins)
    exact of_decide_eq_false hunlike ((hend.trans hab).trans hbegin)

namespace MaximalRuns

theorem tail {run : List Event} (h : MaximalRuns (run :: runs) events) :
    MaximalRuns runs runs.flatten where
  joined := rfl
  filled hnil := h.filled (List.mem_cons_of_mem _ hnil)
  alike r hr := h.alike r (List.mem_cons_of_mem _ hr)
  apart := h.apart.tail

theorem ne_nil {run : List Event} (h : MaximalRuns (run :: runs) events) : run ≠ [] :=
  fun hnil => h.filled (hnil ▸ List.mem_cons_self)

theorem eq_splitBy (h : MaximalRuns runs events) :
    runs = events.splitBy fun a b => a.Alike b := by
  rw [← h.joined]
  symm
  apply List.splitBy_flatten h.filled
  · intro run hrun
    have hpairs := List.pairwise_of_forall_mem_list (h.alike run hrun)
    simpa using hpairs.isChain
  · refine h.apart.imp_of_mem_imp ?_
    intro left right hleft hright hapart
    have hends : left ≠ [] := fun hnil => h.filled (hnil ▸ hleft)
    have hbegins : right ≠ [] := fun hnil => h.filled (hnil ▸ hright)
    exact ⟨hends, hbegins,
      decide_eq_false (hapart _ (List.getLast_mem hends) _ (List.head_mem hbegins))⟩

theorem unique (h : MaximalRuns runs events) (hother : MaximalRuns other events) :
    other = runs :=
  hother.eq_splitBy.trans h.eq_splitBy.symm

/-- The event that follows a run is unlike all of the run. -/
theorem head_unlike {run : List Event} (h : MaximalRuns (run :: runs) events) {a b : Event}
    (ha : a ∈ run) (hb : b ∈ runs.flatten.head?) : ¬ a.Alike b := by
  cases runs with
  | nil => cases hb
  | cons next later =>
      have hnext : next ≠ [] := fun hnil => h.filled (by simp [hnil])
      rw [List.flatten_cons, List.head?_append_of_ne_nil next hnext] at hb
      exact (List.isChain_cons_cons.mp h.apart).1 a ha b (List.mem_of_mem_head? hb)

/-- Neighbours that are alike in turn lie in one run. -/
theorem exists_run_of_infix (h : MaximalRuns runs events) {part : List Event} (hfilled : part ≠ [])
    (hpart : part <:+: events) (hchain : part.IsChain Alike) : ∃ run ∈ runs, part <:+: run := by
  induction runs generalizing events with
  | nil =>
      rw [← h.joined] at hpart
      exact absurd (List.infix_nil.mp hpart) hfilled
  | cons run runs ih =>
      rw [← h.joined, List.flatten_cons, List.infix_append_iff] at hpart
      rcases hpart with hhere | hlater | ⟨front, back, rfl, hfront, hback⟩
      · exact ⟨run, List.mem_cons_self, hhere⟩
      · obtain ⟨next, hnext, hinside⟩ := ih h.tail hlater
        exact ⟨next, List.mem_cons_of_mem _ hnext, hinside⟩
      · rcases List.eq_nil_or_concat' front with rfl | ⟨front, a, rfl⟩
        · obtain ⟨next, hnext, hinside⟩ := ih h.tail hback.isInfix
          exact ⟨next, List.mem_cons_of_mem _ hnext, hinside⟩
        · cases back with
          | nil => exact ⟨run, List.mem_cons_self, by simpa using hfront.isInfix⟩
          | cons b back =>
              -- the part would cross from this run to the next
              have hab : a.Alike b := by
                obtain ⟨-, -, hcross⟩ := List.isChain_append.mp hchain
                exact hcross a (by simp) b (by simp)
              have ha : a ∈ run := hfront.subset (by simp)
              have hb : b ∈ runs.flatten.head? := by
                obtain ⟨rest, hrest⟩ := hback
                simp [← hrest]
              exact absurd hab (h.head_unlike ha hb)

/-- Condensed runs are the maximal runs of what is left. -/
theorem condensed (h : MaximalRuns runs events) :
    MaximalRuns (runs.map Event.condensed) (runs.flatMap Event.condensed) where
  joined := List.flatMap_def.symm
  filled hnil := by
    obtain ⟨run, hrun, hempty⟩ := List.mem_map.mp hnil
    exact condensed_ne_nil (fun hnone => h.filled (hnone ▸ hrun)) hempty
  alike := by
    intro _ hcondensed a ha b hb
    obtain ⟨run, hrun, rfl⟩ := List.mem_map.mp hcondensed
    obtain ⟨first, hfirst, hafirst⟩ := exists_alike_of_mem_condensed ha
    obtain ⟨second, hsecond, hbsecond⟩ := exists_alike_of_mem_condensed hb
    exact (hafirst.trans (h.alike run hrun first hfirst second hsecond)).trans hbsecond.symm
  apart := by
    rw [List.isChain_map]
    refine h.apart.imp ?_
    intro left right hapart a ha b hb hab
    obtain ⟨first, hfirst, hafirst⟩ := exists_alike_of_mem_condensed ha
    obtain ⟨second, hsecond, hbsecond⟩ := exists_alike_of_mem_condensed hb
    exact hapart first hfirst second hsecond ((hafirst.symm.trans hab).trans hbsecond)

/-- No three neighbours of what is left are alike. -/
theorem not_alike_of_infix_condensed (h : MaximalRuns runs events) {a b c : Event}
    (hpart : [a, b, c] <:+: runs.flatMap Event.condensed) : ¬ (a.Alike b ∧ b.Alike c) := by
  rintro ⟨hab, hbc⟩
  have hchain : [a, b, c].IsChain Alike := by simp [hab, hbc]
  obtain ⟨_, hmember, hinside⟩ :=
    h.condensed.exists_run_of_infix (List.cons_ne_nil _ _) hpart hchain
  obtain ⟨run, -, rfl⟩ := List.mem_map.mp hmember
  have hshort : [a, b, c].length ≤ 2 := hinside.length_le.trans (length_condensed_le run)
  simp at hshort

end MaximalRuns

/-! ### Adding events one by one -/

private theorem samePattern_repeats (event counted latest : Event) :
    RepeatRule.samePattern.repeats event counted latest =
      .ok (decide (counted.Alike latest ∧ latest.Alike event)) := by
  apply congrArg Except.ok
  rw [decide_eq_decide]
  unfold Alike
  tauto

theorem add_repeating (before : List Event) {counted latest event : Event}
    (hcounted : counted.Alike latest) (hlatest : latest.Alike event) :
    add { events := before ++ [counted, latest] } event =
      .ok { events := before ++ [counted.repeated, event] } := by
  have hrepeats : RepeatRule.samePattern.repeats event counted latest = .ok true := by
    rw [samePattern_repeats, decide_eq_true ⟨hcounted, hlatest⟩]
  simp [add, hrepeats, derive, bind, Except.bind, pure, Except.pure]

theorem add_unlike {before : List Event} {event : Event}
    (h : ∀ earlier counted latest, before = earlier ++ [counted, latest] →
      ¬ (counted.Alike latest ∧ latest.Alike event)) :
    add { events := before } event = .ok { events := before ++ [event] } := by
  unfold add
  split
  · rename_i latest counted earlier hreverse
    have hbefore : before = earlier.reverse ++ [counted, latest] := by
      simpa using congrArg List.reverse hreverse
    have hrepeats : RepeatRule.samePattern.repeats event counted latest = .ok false := by
      rw [samePattern_repeats, decide_eq_false (h _ _ _ hbefore)]
    simp [hrepeats, derive, bind, Except.bind, pure, Except.pure]
  · rfl

theorem addAll_nil (t : Timeline) : t.addAll [] = .ok t := rfl

theorem addAll_cons {t u : Timeline} {event : Event} (h : t.add event = .ok u)
    (later : List Event) : t.addAll (event :: later) = u.addAll later := by
  unfold addAll
  rw [List.foldlM_cons, h]
  rfl

theorem addAll_append {t u : Timeline} {first : List Event} (h : t.addAll first = .ok u)
    (second : List Event) : t.addAll (first ++ second) = u.addAll second := by
  unfold addAll at h ⊢
  rw [List.foldlM_append, h]
  rfl

/-- Within a run the entry before the last counts every further event. -/
theorem addAll_repeating (before : List Event) {counted latest : Event} {later : List Event}
    (hcounted : counted.Alike latest) (hlater : ∀ e ∈ later, latest.Alike e) :
    addAll { events := before ++ [counted, latest] } later =
      .ok { events := before ++ [{ counted with count := counted.count + later.length },
        (latest :: later).getLast (List.cons_ne_nil latest later)] } := by
  induction later generalizing counted latest with
  | nil => simp [addAll_nil]
  | cons e later ih =>
      have he : latest.Alike e := hlater e List.mem_cons_self
      have hrest : ∀ x ∈ later, e.Alike x :=
        fun x hx => he.symm.trans (hlater x (List.mem_cons_of_mem _ hx))
      have hrepeated : counted.repeated.Alike e := hcounted.trans he
      have htotal : counted.count + 1 + (later.length : Int) =
          counted.count + ((e :: later).length : Int) := by
        rw [List.length_cons]
        omega
      rw [addAll_cons (add_repeating before hcounted he), ih hrepeated hrest, ← htotal]
      rfl

/-- A run that is unlike the entry stored last is stored condensed. -/
theorem addAll_run {before run : List Event} (halike : ∀ a ∈ run, ∀ b ∈ run, a.Alike b)
    (hunlike : ∀ latest ∈ before.getLast?, ∀ e ∈ run, ¬ latest.Alike e) :
    addAll { events := before } run = .ok { events := before ++ Event.condensed run } := by
  have hfirst : ∀ first ∈ run,
      add { events := before } first = .ok { events := before ++ [first] } := by
    intro first hmember
    apply add_unlike
    rintro earlier counted latest hbefore ⟨-, hlatest⟩
    exact hunlike latest (by simp [hbefore]) first hmember hlatest
  match run with
  | [] => simp [addAll_nil, Event.condensed]
  | [only] => exact addAll_cons (hfirst only List.mem_cons_self) []
  | first :: second :: later =>
      -- the second event has one of its run before it, but none before that one
      have hsecond : add { events := before ++ [first] } second =
          .ok { events := before ++ [first] ++ [second] } := by
        apply add_unlike
        rintro earlier counted latest hbefore ⟨hcounted, -⟩
        have hends := hbefore.trans (List.append_cons earlier counted [latest])
        obtain ⟨rfl, hlatest⟩ := List.append_inj' hends rfl
        obtain rfl := List.singleton_inj.mp hlatest
        exact hunlike counted (by simp) first List.mem_cons_self hcounted
      have hcounted : first.Alike second := halike first (by simp) second (by simp)
      have hlater : ∀ e ∈ later, second.Alike e :=
        fun e he => halike second (by simp) e (by simp [he])
      rw [addAll_cons (hfirst first List.mem_cons_self), addAll_cons hsecond, List.append_assoc]
      exact addAll_repeating before hcounted hlater

/-- Runs are stored one after another, each condensed. -/
theorem addAll_runs {before : List Event} (h : MaximalRuns runs events)
    (hunlike : ∀ latest ∈ before.getLast?, ∀ e ∈ events.head?, ¬ latest.Alike e) :
    addAll { events := before } events =
      .ok { events := before ++ runs.flatMap Event.condensed } := by
  induction runs generalizing before events with
  | nil =>
      rw [← h.joined]
      simp [addAll_nil]
  | cons run runs ih =>
      obtain ⟨first, rest, rfl⟩ := List.exists_cons_of_ne_nil h.ne_nil
      have halike := h.alike _ List.mem_cons_self
      have hrun : ∀ latest ∈ before.getLast?, ∀ e ∈ first :: rest, ¬ latest.Alike e := by
        intro latest hlatest e he hsame
        refine hunlike latest hlatest first ?_ (hsame.trans (halike e he first (by simp)))
        simp [← h.joined]
      have hlater : ∀ latest ∈ (before ++ Event.condensed (first :: rest)).getLast?,
          ∀ e ∈ runs.flatten.head?, ¬ latest.Alike e := by
        intro latest hlatest e he
        rw [List.getLast?_append_of_ne_nil _ (condensed_ne_nil h.ne_nil), getLast?_condensed]
          at hlatest
        exact h.head_unlike (List.mem_of_mem_getLast? hlatest) he
      rw [← h.joined, List.flatten_cons, addAll_append (addAll_run halike hrun), ih h.tail hlater,
        List.flatMap_cons, List.append_assoc]

theorem folded_of_maximalRuns (h : MaximalRuns runs events) :
    folded events = .ok { events := runs.flatMap Event.condensed } :=
  addAll_runs h (by simp)

/-- The events of a list, added one by one, leave its maximal runs, each condensed to its ends. A
run at the very start is no exception, and what is left folds no further. -/
theorem folded_eq_condensed_runs (events : List Event) :
    ∃ runs, MaximalRuns runs events ∧ (∀ other, MaximalRuns other events → other = runs) ∧
      folded events = .ok { events := runs.flatMap Event.condensed } ∧
      (∀ a b c, [a, b, c] <:+: runs.flatMap Event.condensed → ¬ (a.Alike b ∧ b.Alike c)) ∧
      folded (runs.flatMap Event.condensed) =
        .ok { events := runs.flatMap Event.condensed } := by
  have hruns := maximalRuns_splitBy events
  refine ⟨_, hruns, fun _ hother => hruns.unique hother, folded_of_maximalRuns hruns,
    fun _ _ _ hpart => hruns.not_alike_of_infix_condensed hpart, ?_⟩
  rw [folded_of_maximalRuns hruns.condensed, List.flatMap_map]
  simp only [condensed_condensed]

/-- Four at the very start, one of another message, and two more of the first. -/
example :
    (folded (["up", "up", "up", "up", "down", "up", "up"].map
      fun message => { message })).toOption.map (·.events.map (·.count)) =
      some [3, 1, 1, 1, 1] := by
  decide

end Timeline

end NodeHistory

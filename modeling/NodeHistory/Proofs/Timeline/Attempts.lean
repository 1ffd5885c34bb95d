import NodeHistory.Proofs.Timeline.Contents
import NodeHistory.Proofs.Timeline.FoldedCounts

/-!
Adding to a timeline under any rule. A rule need not be symmetric or transitive, and it may refuse
some of the events. A refused event leaves every timeline as it was. Of the others none is lost from
the count: the entry stored last always stands for one occurrence, so what a repetition overwrites
is just what it adds to the account of the entry before. Main statement: after any row of attempts
the counts add up to the number of events added, and the stored events are among these, from the
first one to the last.
-/

namespace NodeHistory

open Event

/-- The event for itself, whatever it counts. -/
def Event.single (e : Event) : Event := { e with count := 1 }

@[simp] theorem Event.single_repeated (e : Event) : e.repeated.single = e.single := rfl

theorem Event.single_eq_self {e : Event} (once : e.count = 1) : e.single = e := by
  cases e
  cases once
  rfl

namespace Timeline

variable {t u : Timeline} {e : Event} {added : List Event}

/-- An event that is added is folded into the last two stored ones, as the rule has it, or it is
appended. -/
theorem add_cases (h : t.add e = .ok u) :
    (∃ earlier counted latest, t.events = earlier ++ [counted, latest] ∧
      t.rule.repeats e counted latest = .ok true ∧
      u = t.derive (earlier ++ [counted.repeated, e])) ∨
    (∀ earlier counted latest, t.events = earlier ++ [counted, latest] →
      t.rule.repeats e counted latest = .ok false) ∧ u = t.derive (t.events ++ [e]) := by
  unfold add at h
  split at h
  · rename_i latest counted earlier hreverse
    have hevents : t.events = earlier.reverse ++ [counted, latest] := by
      simpa using congrArg List.reverse hreverse
    cases hrepeats : t.rule.repeats e counted latest with
    | error refusal => simp [hrepeats, bind, Except.bind] at h
    | ok repeated =>
        cases repeated with
        | true =>
            simp only [hrepeats, bind, Except.bind, pure, Except.pure, if_true] at h
            exact .inl ⟨_, _, _, hevents, hrepeats, (Except.ok.inj h).symm⟩
        | false =>
            simp only [hrepeats, bind, Except.bind, pure, Except.pure, Bool.false_eq_true,
              if_false] at h
            refine .inr ⟨?_, (Except.ok.inj h).symm⟩
            intro front second last hother
            have hends := hevents.symm.trans hother
            obtain ⟨-, hsame⟩ := List.append_inj' hends rfl
            obtain ⟨rfl, rfl⟩ : counted = second ∧ latest = last := by simpa using hsame
            exact hrepeats
  · rename_i hshort
    refine .inr ⟨?_, (Except.ok.inj h).symm⟩
    intro earlier counted latest hevents
    exact absurd (by simp [hevents]) (hshort latest counted earlier.reverse)

theorem rule_add (h : t.add e = .ok u) : u.rule = t.rule := by
  obtain ⟨_, _, _, -, -, rfl⟩ | ⟨-, rfl⟩ := add_cases h
  · rfl
  · rfl

/-- The timeline accounts for the events that have been added to it. -/
structure Tallies (added : List Event) (t : Timeline) : Prop where
  total : total t.events = added.length
  last : t.events.getLast? = added.getLast?
  first : t.events.head?.map single = added.head?
  kept : (t.events.map single).Sublist added

theorem tallies_nil (rule : RepeatRule) : Tallies [] { rule } where
  total := rfl
  last := rfl
  first := rfl
  kept := .slnil

/-- One more event is accounted for, folded or not. -/
theorem Tallies.add (h : Tallies added t) (hadded : ∀ a ∈ added, a.count = 1) (he : e.count = 1)
    (hadd : t.add e = .ok u) : Tallies (added ++ [e]) u := by
  obtain ⟨htotal, hlast, hfirst, hkept⟩ := h
  have hsingle : e.single = e := single_eq_self he
  obtain ⟨earlier, counted, latest, hevents, -, rfl⟩ | ⟨-, rfl⟩ := add_cases hadd
  · rw [hevents] at htotal hlast hfirst hkept
    -- the entry that is overwritten stands for one occurrence, being the one added last
    have honce : latest.count = 1 :=
      hadded latest (List.mem_of_mem_getLast? (hlast.symm.trans (by simp)))
    refine ⟨?_, by simp [derive], ?_, ?_⟩
    · simp only [derive, repeated, Event.total, List.map_append, List.map_cons, List.map_nil,
        List.sum_append, List.sum_cons, List.sum_nil, List.length_append, List.length_singleton,
        Nat.cast_add, Nat.cast_one] at htotal ⊢
      omega
    · have hfilled : added ≠ [] := by
        rintro rfl
        simp at hlast
      have hfront : (earlier ++ [counted.repeated, e]).head?.map single =
          (earlier ++ [counted, latest]).head?.map single := by
        cases earlier <;> simp
      rw [List.head?_append_of_ne_nil _ hfilled, ← hfirst]
      exact hfront
    · have hfront : ((earlier ++ [counted]).map single).Sublist added := by
        refine List.Sublist.trans ?_ hkept
        simp
      simpa [derive, hsingle] using hfront.append (List.Sublist.refl [e])
  · refine ⟨?_, by simp [derive], ?_, ?_⟩
    · simp only [derive, total_append, htotal, List.length_append, Nat.cast_add]
      simp [Event.total, he]
    · cases hstored : t.events with
      | nil =>
          obtain rfl : added = [] := by simpa [hstored] using hfirst.symm
          simp [derive, hsingle]
      | cons first rest =>
          have hfilled : added ≠ [] := by
            rintro rfl
            simp [hstored] at hfirst
          rw [List.head?_append_of_ne_nil _ hfilled, ← hfirst]
          simp [derive, hstored]
    · simpa [derive, hsingle] using hkept.append (List.Sublist.refl [e])

end Timeline

namespace Shelf

open Timeline

variable {shelf : Shelf} {name : String} {ref : Ref} {t : Timeline}

theorem find_eq_ok_iff : shelf.find name = .ok (ref, t) ↔
    shelf.labels.lookup name = some ref ∧ shelf.store.get? ref = some t := by
  cases hlabel : shelf.labels.lookup name with
  | none => simp [find, hlabel]
  | some found =>
      cases hstored : shelf.store.get? found with
      | none =>
          have hapart : ¬ (found = ref ∧ shelf.store.get? ref = some t) := by
            rintro ⟨rfl, hget⟩
            exact Option.some_ne_none t (hget.symm.trans hstored)
          simp [find, hlabel, hstored, hapart]
      | some held =>
          simp only [find, hlabel, hstored, Except.ok.injEq, Prod.mk.injEq, Option.some.injEq]
          refine and_congr_right fun hsame => ?_
          rw [← hsame, hstored, Option.some.injEq]

/-- An event that is stored beside the timelines changes none of them. -/
theorem find_give (shelf : Shelf) (e : Event) (name : String) :
    { shelf with store := (shelf.store.give e).2 }.find name = shelf.find name := by
  have hget (ref : Ref) : (shelf.store.give e).2.get? ref = shelf.store.get? ref := by
    cases hstored : shelf.store.get? ref with
    | some t =>
        exact (Store.preserves_hold shelf.store [e]).timelines ref List.not_mem_nil t hstored
    | none =>
        have hnone : shelf.store.timelines[ref]? = none := Option.map_eq_none_iff.mp hstored
        exact Option.map_eq_none_iff.mpr hnone
  unfold find
  simp only [hget]

/-- Adding by name is adding to the timeline under that name, in place. -/
theorem add_once (h : shelf.find name = .ok (ref, t)) (e : Event) :
    ∃ outcome, ((shelf.store.give e).2.add ref (shelf.store.give e).1) = some outcome ∧
      outcome.map (·.get? ref) = (t.add e).map some := by
  obtain ⟨-, hget⟩ := find_eq_ok_iff.mp h
  have hkept := (Store.preserves_hold shelf.store [e]).timelines ref List.not_mem_nil t hget
  have hgiven : (shelf.store.give e).2.event? (shelf.store.give e).1 = some e := by
    simp [Store.give, Store.hold, Store.event?]
  exact Option.map_eq_some_iff.mp (Store.get?_add hkept hgiven)

theorem add_ok {u : Timeline} {e : Event} (h : shelf.find name = .ok (ref, t))
    (hadd : t.add e = .ok u) :
    ∃ after, shelf.add name e 1 = (.ok u, after) ∧ after.find name = .ok (ref, u) := by
  obtain ⟨outcome, hstep, houtcome⟩ := add_once h e
  rw [hadd] at houtcome
  cases outcome with
  | error refusal => cases houtcome
  | ok store =>
      have hget : store.get? ref = some u := Except.ok.inj houtcome
      have hfind : { shelf with store }.find name = .ok (ref, u) :=
        find_eq_ok_iff.mpr ⟨(find_eq_ok_iff.mp h).1, hget⟩
      refine ⟨{ shelf with store }, ?_, hfind⟩
      simp [add, h, add.go, hstep, hfind, Except.map]

theorem add_refused {e : Event} {refusal : Incomparable} (h : shelf.find name = .ok (ref, t))
    (hadd : t.add e = .error refusal) :
    shelf.add name e 1 =
      (.error (.refused refusal), { shelf with store := (shelf.store.give e).2 }) := by
  obtain ⟨outcome, hstep, houtcome⟩ := add_once h e
  rw [hadd] at houtcome
  cases outcome with
  | ok store => cases houtcome
  | error other =>
      obtain rfl : other = refusal := Except.error.inj houtcome
      simp [add, h, add.go, hstep]

/-- What is not added changes nothing, under whatever name one looks. -/
theorem find_add_of_error {e : Event} {error : ShelfError}
    (h : (shelf.add name e 1).1 = .error error) (other : String) :
    (shelf.add name e 1).2.find other = shelf.find other := by
  cases hfind : shelf.find name with
  | error missing => simp [add, hfind]
  | ok found =>
      obtain ⟨ref, t⟩ := found
      cases hadd : t.add e with
      | ok u =>
          obtain ⟨after, hanswer, -⟩ := add_ok hfind hadd
          simp [hanswer] at h
      | error refusal =>
          rw [add_refused hfind hadd]
          exact find_give shelf e other

/-- Adds events one after another and notes the answers; a refusal does not end the row. -/
def addEach (shelf : Shelf) (name : String) :
    List Event → List (Event × Except ShelfError Timeline) × Shelf
  | [] => ([], shelf)
  | e :: later =>
    let (answer, shelf) := shelf.add name e 1
    let (answers, shelf) := shelf.addEach name later
    ((e, answer) :: answers, shelf)

/-- The events that the answers say were added. -/
def addedIn (answers : List (Event × Except ShelfError Timeline)) : List Event :=
  (answers.filter (·.2.isOk)).map (·.1)

theorem events_addEach (shelf : Shelf) (name : String) (events : List Event) :
    (shelf.addEach name events).1.map (·.1) = events := by
  induction events generalizing shelf with
  | nil => rfl
  | cons e later ih => exact congrArg (e :: ·) (ih (shelf.add name e 1).2)

/-- The account goes on from what was there before the row. -/
theorem tallies_addEach {added events : List Event} (hfind : shelf.find name = .ok (ref, t))
    (h : Tallies added t) (hadded : ∀ e ∈ added, e.count = 1)
    (hevents : ∀ e ∈ events, e.count = 1) :
    ∃ u, (shelf.addEach name events).2.find name = .ok (ref, u) ∧ u.rule = t.rule ∧
      Tallies (added ++ addedIn (shelf.addEach name events).1) u ∧
      ∀ answer ∈ (shelf.addEach name events).1, ∀ error, answer.2 = .error error →
        ∃ refusal, error = .refused refusal := by
  induction events generalizing shelf t added with
  | nil => exact ⟨t, hfind, rfl, by simpa [addEach, addedIn] using h, by simp [addEach]⟩
  | cons e later ih =>
      obtain ⟨he, hlater⟩ := List.forall_mem_cons.mp hevents
      cases hadd : t.add e with
      | ok u =>
          obtain ⟨after, hanswer, hafter⟩ := add_ok hfind hadd
          have hall : ∀ a ∈ added ++ [e], a.count = 1 := by
            simpa [or_imp, forall_and] using ⟨hadded, he⟩
          obtain ⟨v, hv, hrule, htallies, hanswers⟩ := ih hafter (h.add hadded he hadd) hall hlater
          refine ⟨v, ?_, hrule.trans (rule_add hadd), ?_, ?_⟩
          · simpa [addEach, hanswer] using hv
          · simpa [addEach, hanswer, addedIn, Except.isOk, Except.toBool] using htallies
          · simpa [addEach, hanswer] using hanswers
      | error refusal =>
          have hanswer := add_refused hfind hadd
          have hkept := (find_give shelf e name).trans hfind
          obtain ⟨v, hv, hrule, htallies, hanswers⟩ := ih hkept h hadded hlater
          refine ⟨v, ?_, hrule, ?_, ?_⟩
          · simpa [addEach, hanswer] using hv
          · simpa [addEach, hanswer, addedIn, Except.isOk, Except.toBool] using htallies
          · simpa [addEach, hanswer] using hanswers

/-- Whatever the rule, an event that is refused changes no timeline, and of a row of events added to
an empty timeline those that are not refused are all accounted for. -/
theorem added_accounted_under_any_rule {rule : RepeatRule} {events : List Event}
    (hempty : shelf.find name = .ok (ref, { rule })) (once : ∀ e ∈ events, e.count = 1) :
    (∀ (before : Shelf) (label : String) (e : Event) (error : ShelfError),
      (before.add label e 1).1 = .error error →
        ∀ other, (before.add label e 1).2.find other = before.find other) ∧
    (shelf.addEach name events).1.map (·.1) = events ∧
    (∀ answer ∈ (shelf.addEach name events).1, ∀ error, answer.2 = .error error →
      ∃ refusal, error = .refused refusal) ∧
    ∃ t, (shelf.addEach name events).2.find name = .ok (ref, t) ∧ t.rule = rule ∧
      Tallies (addedIn (shelf.addEach name events).1) t := by
  obtain ⟨t, hfind, hrule, htallies, hanswers⟩ :=
    tallies_addEach hempty (tallies_nil rule) (by simp) once
  exact ⟨fun _ _ _ _ => find_add_of_error, events_addEach shelf name events, hanswers,
    t, hfind, hrule, htallies⟩

/-- A rule that refuses a message and for the rest looks at the latest occurrence only. -/
def choosy : RepeatRule where
  name := "choosy"
  repeats event _ latest :=
    if event.message = "?" then .error ⟨event.message⟩ else .ok (latest.message = event.message)

/-- Of six events two are refused, and an event of another message counts the repetitions. -/
theorem choosy_rule_accounts :
    let shelf := ({ store := (Store.empty.alloc { rule := choosy }).2 } : Shelf).label "log" 0
    let events : List Event :=
      ["up", "down", "down", "?", "down", "?"].map fun message => { message }
    shelf.find "log" = .ok (0, { rule := choosy }) ∧ (∀ e ∈ events, e.count = 1) ∧
      ∃ t, (shelf.addEach "log" events).2.find "log" = .ok (0, t) ∧ total t.events = 4 ∧
        t.events.getLast? = some { message := "down" } ∧
        t.events.head?.map single = some { message := "up" } := by
  intro shelf events
  have hempty : shelf.find "log" = .ok (0, { rule := choosy }) := rfl
  have once : ∀ e ∈ events, e.count = 1 := by decide
  have hadded : addedIn (shelf.addEach "log" events).1 =
      ["up", "down", "down", "down"].map fun message => { message } := by decide +kernel
  obtain ⟨-, -, -, t, hfind, -, htallies⟩ := added_accounted_under_any_rule hempty once
  rw [hadded] at htallies
  exact ⟨hempty, once, t, hfind, htallies.total, htallies.last, htallies.first⟩

end Shelf

end NodeHistory

import Mathlib.Data.List.Basic
import NodeHistory.Proofs.Time.Order
import NodeHistory.Timeline.Merge

/-!
The times of a timeline as lists of moments: `clocks` are the authoritative ones, `times` those of
events of every file type. The span is the first and the last clock, and joining two timelines
joins their clocks. A timeline is `Ordered` when its clocks never go back, and `TimesOrdered` when
none of its times do.
-/

namespace NodeHistory

open Time

namespace Event

def clocks (events : List Event) : List Instant := events.filterMap clock?

def times (events : List Event) : List Instant := events.filterMap time?

theorem startOf_eq_head? (events : List Event) : startOf events = (clocks events).head? := by
  simp [startOf, clocks]

theorem finishOf_eq_getLast? (events : List Event) :
    finishOf events = (clocks events).getLast? := by
  simp [finishOf, clocks]

@[simp] theorem clocks_append (first second : List Event) :
    clocks (first ++ second) = clocks first ++ clocks second :=
  List.filterMap_append

/-- An event that tells the clock tells its time. -/
theorem time?_eq_clock? {e : Event} (h : e.clock?.isSome = true) : e.time? = e.clock? := by
  obtain ⟨c, hc⟩ := Option.isSome_iff_exists.mp h
  rw [hc, (clock?_eq_some_iff.mp hc).2]

/-- Where all events tell the clock, the first one does. -/
theorem startOf_of_clocked {events : List Event} (h : ∀ e ∈ events, e.clock?.isSome = true) :
    startOf events = events.head?.bind clock? := by
  cases events with
  | nil => rfl
  | cons first rest =>
      obtain ⟨c, hc⟩ := Option.isSome_iff_exists.mp (h first List.mem_cons_self)
      simp [startOf, hc]

theorem mem_clocks {events : List Event} {c : Instant} :
    c ∈ clocks events ↔ ∃ e ∈ events, e.clock? = some c :=
  List.mem_filterMap

/-- Clocks that never go back begin with the earliest. -/
theorem rank_startOf_le {events : List Event} (h : (clocks events).Pairwise (· ≤ ·))
    {c : Instant} (hc : c ∈ clocks events) : rank (startOf events) ≤ c := by
  rw [startOf_eq_head?]
  cases hclocks : clocks events with
  | nil => simp
  | cons first rest =>
      rw [hclocks] at h hc
      rcases List.mem_cons.mp hc with rfl | hrest
      · simp
      · simpa using (List.pairwise_cons.mp h).1 c hrest

theorem clocks_sublist_times (events : List Event) : (clocks events).Sublist (times events) := by
  have hclocks : clocks events = times (events.filter authoritative) := by
    simp only [clocks, times, List.filterMap_filter]
    rfl
  rw [hclocks]
  exact List.filter_sublist.filterMap _

/-- Handing a provenance on changes no value that does not look at the provenance. -/
theorem map_inheritLast {α : Type} (f : Event → α) (earlier : Provenance)
    (hf : ∀ e : Event, f (e.inheriting earlier) = f e) (events : List Event) :
    (inheritLast earlier events).map f = events.map f := by
  fun_induction inheritLast earlier events with
  | case1 => rfl
  | case2 e => simp [hf]
  | case3 e g rest ih =>
      simp only [List.map_cons] at ih ⊢
      rw [ih]

@[simp] theorem clocks_inheritLast (earlier : Provenance) (events : List Event) :
    clocks (inheritLast earlier events) = clocks events := by
  have hmap := map_inheritLast clock? earlier (fun e => clock?_inheriting e earlier) events
  have hclocks := congrArg (List.filterMap id) hmap
  simpa [clocks, List.filterMap_map] using hclocks

theorem isAfter_iff {at? : Option Instant} {e : Event} :
    e.isAfter at? = true ↔ ∃ t, e.time? = some t ∧ rank at? < t := by
  cases htime : e.time? with
  | none => simp [isAfter, htime]
  | some t => simp [isAfter, htime, precedes_iff]

/-- An event of a file that tells no more than its time, in microseconds. -/
def bare (filePath : String) (micros : Nat) (fileType : String := "") : Event :=
  { stamp := (Instant.ofMicros? micros).map ({ time := · }), provenance := { filePath, fileType } }

end Event

namespace Timeline

def clocks (t : Timeline) : List Instant := Event.clocks t.events

def times (t : Timeline) : List Instant := Event.times t.events

/-- The authoritative times never go back. -/
def Ordered (t : Timeline) : Prop := t.clocks.Pairwise (· ≤ ·)

/-- The times of events of every file type never go back. -/
def TimesOrdered (t : Timeline) : Prop := t.times.Pairwise (· ≤ ·)

instance (t : Timeline) : Decidable t.Ordered :=
  inferInstanceAs (Decidable (t.clocks.Pairwise (· ≤ ·)))

instance (t : Timeline) : Decidable t.TimesOrdered :=
  inferInstanceAs (Decidable (t.times.Pairwise (· ≤ ·)))

theorem TimesOrdered.ordered {t : Timeline} (h : t.TimesOrdered) : t.Ordered :=
  h.sublist (Event.clocks_sublist_times t.events)

theorem start?_eq_head? (t : Timeline) : t.start? = t.clocks.head? :=
  Event.startOf_eq_head? t.events

theorem finish?_eq_getLast? (t : Timeline) : t.finish? = t.clocks.getLast? :=
  Event.finishOf_eq_getLast? t.events

/-- Where every event tells the clock, the times are the clocks. -/
theorem times_eq_clocks {t : Timeline} (h : ∀ e ∈ t.events, e.clock?.isSome = true) :
    t.times = t.clocks := by
  apply List.filterMap_congr
  intro e he
  exact Event.time?_eq_clock? (h e he)

@[simp] theorem clocks_join (earlier later : Timeline) :
    (earlier.join later).clocks = earlier.clocks ++ later.clocks := by
  unfold join
  split <;> simp [clocks, concat, derive]

theorem isEmpty_iff {t : Timeline} : t.isEmpty = true ↔ t.events = [] := List.isEmpty_iff

end Timeline

end NodeHistory

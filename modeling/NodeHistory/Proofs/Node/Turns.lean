import Mathlib.Data.List.Flatten
import Mathlib.Data.List.Nodup
import Mathlib.Data.List.Perm.Basic
import Mathlib.Data.Prod.Lex
import NodeHistory.Proofs.Timeline.Clocks

/-!
Turns of queued events. An event's turn has a key: the event's time, the number of earlier events
of its node that have this time too, and the node's place among the queues. `Arranges` says that
turns stand in the order of their keys, which leaves no choice. A round at the earliest time takes
the heads that show it, and those are the turns with the least keys. What it leaves in the queues
has the same turns as before, less one earlier event where the time is that of the round, and so
comes in the same order.
-/

namespace NodeHistory.Interleaving

open Time

/-- An event that a node hands out, with what decides when. -/
structure Turn where
  earlier : Nat
  place : Nat
  node : String
  event : Event

namespace Turn

def key (t : Turn) : WithBot Instant ×ₗ Nat ×ₗ Nat :=
  toLex (rank t.event.time?, toLex (t.earlier, t.place))

def pair (t : Turn) : String × Event := (t.node, t.event)

theorem key_lt_iff {s t : Turn} : s.key < t.key ↔
    rank s.event.time? < rank t.event.time? ∨ s.event.time? = t.event.time? ∧
      (s.earlier < t.earlier ∨ s.earlier = t.earlier ∧ s.place < t.place) := by
  simp only [key, Prod.Lex.toLex_lt_toLex, rank_injective.eq_iff]

/-- One more event of that time comes before. -/
def behind (time? : Option Instant) (t : Turn) : Turn :=
  if t.event.time? = time? then { t with earlier := t.earlier + 1 } else t

@[simp] theorem event_behind (time? : Option Instant) (t : Turn) :
    (t.behind time?).event = t.event := by
  unfold behind
  split <;> rfl

@[simp] theorem pair_behind (time? : Option Instant) (t : Turn) :
    (t.behind time?).pair = t.pair := by
  unfold behind
  split <;> rfl

theorem behind_of_ne {time? : Option Instant} {t : Turn} (h : t.event.time? ≠ time?) :
    t.behind time? = t :=
  if_neg h

/-- All turns of one time are put off alike. -/
theorem key_behind_lt {s t : Turn} (h : s.key < t.key) (time? : Option Instant) :
    (s.behind time?).key < (t.behind time?).key := by
  rw [key_lt_iff] at h ⊢
  rw [event_behind, event_behind]
  rcases h with hbefore | ⟨hsame, horder⟩
  · exact .inl hbefore
  · refine .inr ⟨hsame, ?_⟩
    by_cases htime : t.event.time? = time?
    · have hother : s.event.time? = time? := hsame.trans htime
      simpa [behind, htime, hother] using horder
    · have hother : s.event.time? ≠ time? := hsame ▸ htime
      rwa [behind_of_ne htime, behind_of_ne hother]

end Turn

/-- The turns of a node's events. -/
def turnsOf (place : Nat) (node : String) (events : List Event) : List Turn :=
  events.zipIdx.map fun (e, index) =>
    ⟨(events.take index).countP (·.time? = e.time?), place, node, e⟩

/-- The turns of all events that are queued. -/
def turns (queues : List (String × List Event)) : List Turn :=
  queues.zipIdx.flatMap fun (entry, place) => turnsOf place entry.1 entry.2

theorem turnsOf_cons (place : Nat) (node : String) (e : Event) (events : List Event) :
    turnsOf place node (e :: events) =
      ⟨0, place, node, e⟩ :: (turnsOf place node events).map (Turn.behind e.time?) := by
  unfold turnsOf
  rw [List.zipIdx_cons, List.zipIdx_succ, List.map_cons, List.map_map, List.map_map]
  congr 1
  apply List.map_congr_left
  intro indexed _
  simp only [Function.comp_apply, List.take_succ_cons, List.countP_cons, Turn.behind]
  by_cases htime : indexed.1.time? = e.time?
  · simp [htime]
  · have hother : ¬ e.time? = indexed.1.time? := fun h => htime h.symm
    simp [htime, hother]

theorem turnsOf_nil (place : Nat) (node : String) : turnsOf place node [] = [] := rfl

theorem exists_of_mem_turnsOf {place : Nat} {node : String} {events : List Event} {t : Turn}
    (h : t ∈ turnsOf place node events) : t.place = place ∧ t.event ∈ events := by
  obtain ⟨indexed, hindexed, rfl⟩ := List.mem_map.mp h
  exact ⟨rfl, List.fst_mem_of_mem_zipIdx hindexed⟩

theorem exists_of_mem_turns {queues : List (String × List Event)} {t : Turn}
    (h : t ∈ turns queues) : ∃ entry ∈ queues, t.event ∈ entry.2 := by
  obtain ⟨placed, hplaced, ht⟩ := List.mem_flatMap.mp h
  exact ⟨placed.1, List.fst_mem_of_mem_zipIdx hplaced, (exists_of_mem_turnsOf ht).2⟩

theorem map_pair_turns (queues : List (String × List Event)) :
    (turns queues).map Turn.pair = queues.flatMap fun entry => entry.2.map (entry.1, ·) := by
  have hpairs (place : Nat) (entry : String × List Event) :
      (turnsOf place entry.1 entry.2).map Turn.pair = entry.2.map (entry.1, ·) := by
    conv_rhs => rw [← List.zipIdx_map_fst 0 entry.2]
    rw [turnsOf, List.map_map, List.map_map]
    rfl
  conv_rhs => rw [← List.zipIdx_map_fst 0 queues, List.flatMap_map]
  rw [turns, List.map_flatMap]
  exact List.flatMap_congr fun placed _ => hpairs placed.2 placed.1

/-! ### The turns of a round -/

/-- Every event tells the clock, and no node's clock goes back. -/
structure Timed (queues : List (String × List Event)) : Prop where
  clocked : ∀ entry ∈ queues, ∀ e ∈ entry.2, e.clock?.isSome = true
  ordered : ∀ entry ∈ queues, (Event.clocks entry.2).Pairwise (· ≤ ·)

/-- The clock that some queue shows next and that no clock of any queue is before. -/
structure Earliest (queues : List (String × List Event)) (c : Instant) : Prop where
  shown : ∃ entry ∈ queues, Event.startOf entry.2 = some c
  late : ∀ entry ∈ queues, ∀ d ∈ Event.clocks entry.2, c ≤ d

/-- What a queue hands out in a round at the given time. -/
def front (c : Instant) (events : List Event) : List Event :=
  if Event.startOf events = some c then events.take 1 else []

def back (c : Instant) (events : List Event) : List Event :=
  if Event.startOf events = some c then events.tail else events

theorem back_suffix (c : Instant) (events : List Event) : back c events <:+ events := by
  unfold back
  split
  · exact List.tail_suffix events
  · exact List.suffix_rfl

variable {queues : List (String × List Event)} {c : Instant}

theorem Timed.map_back (h : Timed queues) (c : Instant) :
    Timed (queues.map fun entry => (entry.1, back c entry.2)) := by
  refine ⟨?_, ?_⟩
  · intro entry hentry e he
    obtain ⟨source, hsource, rfl⟩ := List.mem_map.mp hentry
    exact h.clocked source hsource e ((back_suffix c source.2).subset he)
  · intro entry hentry
    obtain ⟨source, hsource, rfl⟩ := List.mem_map.mp hentry
    exact (h.ordered source hsource).sublist ((back_suffix c source.2).sublist.filterMap _)

/-- A queue that shows the time hands out its head, and any other queue nothing. -/
theorem front_back_cases {events : List Event} (hclocked : ∀ e ∈ events, e.clock?.isSome = true)
    (c : Instant) :
    (∃ e, e.time? = some c ∧ events = e :: back c events ∧ front c events = [e]) ∨
      (Event.startOf events ≠ some c ∧ back c events = events ∧ front c events = []) := by
  by_cases hshown : Event.startOf events = some c
  · left
    cases events with
    | nil => cases hshown
    | cons e events =>
        obtain ⟨d, hd⟩ := Option.isSome_iff_exists.mp (hclocked e List.mem_cons_self)
        obtain rfl : d = c := by simpa [Event.startOf, hd] using hshown
        refine ⟨e, (Event.clock?_eq_some_iff.mp hd).2, ?_, ?_⟩
        · rw [back, if_pos hshown, List.tail_cons]
        · rw [front, if_pos hshown, List.take_succ_cons, List.take_zero]
  · right
    exact ⟨hshown, if_neg hshown, if_neg hshown⟩

/-- In a queue that does not show the earliest time no event has it. -/
theorem time?_ne_of_not_shown {events : List Event}
    (hclocked : ∀ e ∈ events, e.clock?.isSome = true)
    (hordered : (Event.clocks events).Pairwise (· ≤ ·))
    (hlate : ∀ d ∈ Event.clocks events, c ≤ d) (hshown : Event.startOf events ≠ some c) :
    ∀ e ∈ events, e.time? ≠ some c := by
  intro e he htime
  have hclock : e.clock? = some c := by rw [← Event.time?_eq_clock? (hclocked e he), htime]
  have hmember : c ∈ Event.clocks events := Event.mem_clocks.mpr ⟨e, he, hclock⟩
  obtain ⟨d, hd⟩ : ∃ d, Event.startOf events = some d := by
    rw [Event.startOf_eq_head?, ← Option.isSome_iff_exists, List.isSome_head?]
    exact List.ne_nil_of_mem hmember
  have hbefore : d ≤ c := by
    have hrank := Event.rank_startOf_le hordered hmember
    rw [hd] at hrank
    exact WithBot.coe_le_coe.mp hrank
  have hafter : c ≤ d := by
    rw [Event.startOf_eq_head?] at hd
    exact hlate d (List.mem_of_head? hd)
  exact hshown (hd.trans (congrArg some (le_antisymm hbefore hafter)))

theorem turnsOf_eq_front_append_back (place : Nat) (node : String) {events : List Event}
    (hclocked : ∀ e ∈ events, e.clock?.isSome = true)
    (hordered : (Event.clocks events).Pairwise (· ≤ ·))
    (hlate : ∀ d ∈ Event.clocks events, c ≤ d) :
    turnsOf place node events =
      turnsOf place node (front c events) ++
        (turnsOf place node (back c events)).map (Turn.behind (some c)) := by
  rcases front_back_cases hclocked c with ⟨e, htime, hevents, hfront⟩ | ⟨hshown, hback, hfront⟩
  · rw [hfront]
    conv_lhs => rw [hevents, turnsOf_cons, htime]
    rfl
  · have hlater := time?_ne_of_not_shown hclocked hordered hlate hshown
    have hsame : (turnsOf place node events).map (Turn.behind (some c)) =
        turnsOf place node events := by
      conv_rhs => rw [← List.map_id (turnsOf place node events)]
      apply List.map_congr_left
      intro t ht
      exact Turn.behind_of_ne (hlater t.event (exists_of_mem_turnsOf ht).2)
    rw [hfront, hback, turnsOf_nil, List.nil_append, hsame]

/-- The turns of all queued events in the order of their keys. -/
structure Arranges (queues : List (String × List Event)) (arranged : List Turn) : Prop where
  all : arranged.Perm (turns queues)
  sorted : arranged.Pairwise (·.key < ·.key)

theorem mem_turnsOf_front {place : Nat} {node : String} {events : List Event}
    (hclocked : ∀ e ∈ events, e.clock?.isSome = true) {t : Turn}
    (h : t ∈ turnsOf place node (front c events)) :
    t.earlier = 0 ∧ t.place = place ∧ t.event.time? = some c := by
  rcases front_back_cases hclocked c with ⟨e, htime, -, hfront⟩ | ⟨-, -, hfront⟩
  · rw [hfront] at h
    obtain rfl : t = ⟨0, place, node, e⟩ := by simpa [turnsOf] using h
    exact ⟨rfl, rfl, htime⟩
  · rw [hfront] at h
    cases h

/-- The turns of a round, node by node. -/
theorem turns_map (part : List Event → List Event) (queues : List (String × List Event)) :
    turns (queues.map fun entry => (entry.1, part entry.2)) =
      queues.zipIdx.flatMap fun placed => turnsOf placed.2 placed.1.1 (part placed.1.2) := by
  rw [turns, List.zipIdx_map, List.flatMap_map]
  rfl

theorem places_rise (queues : List (String × List Event)) :
    queues.zipIdx.Pairwise (·.2 < ·.2) := by
  rw [← List.pairwise_map (f := Prod.snd) (R := (· < ·)), List.zipIdx_map_snd]
  exact List.pairwise_lt_range'

/-- The turns of a round come by place alone. -/
theorem sorted_turns_front (htimed : Timed queues) (c : Instant) :
    (turns (queues.map fun entry => (entry.1, front c entry.2))).Pairwise (·.key < ·.key) := by
  rw [turns_map, List.pairwise_flatMap]
  refine ⟨?_, ?_⟩
  · intro placed hplaced
    have hclocked := htimed.clocked _ (List.fst_mem_of_mem_zipIdx hplaced)
    rcases front_back_cases hclocked c with ⟨e, -, -, hfront⟩ | ⟨-, -, hfront⟩
    · rw [hfront]
      exact List.pairwise_singleton _ _
    · rw [hfront]
      exact List.Pairwise.nil
  · apply (places_rise queues).imp_of_mem
    intro former latter hformer hlatter hplaces s hs t ht
    obtain ⟨hnone, hplace, htime⟩ :=
      mem_turnsOf_front (htimed.clocked _ (List.fst_mem_of_mem_zipIdx hformer)) hs
    obtain ⟨hnone', hplace', htime'⟩ :=
      mem_turnsOf_front (htimed.clocked _ (List.fst_mem_of_mem_zipIdx hlatter)) ht
    refine Turn.key_lt_iff.mpr (.inr ⟨htime.trans htime'.symm, .inr ⟨hnone.trans hnone'.symm, ?_⟩⟩)
    rwa [hplace, hplace']

/-- What a round leaves comes after what it hands out. -/
theorem key_front_lt_behind (htimed : Timed queues) (hearliest : Earliest queues c) {s t : Turn}
    (hs : s ∈ turns (queues.map fun entry => (entry.1, front c entry.2)))
    (ht : t ∈ turns (queues.map fun entry => (entry.1, back c entry.2))) :
    s.key < (t.behind (some c)).key := by
  rw [turns_map] at hs
  obtain ⟨placed, hplaced, hs⟩ := List.mem_flatMap.mp hs
  obtain ⟨hnone, -, htime⟩ :=
    mem_turnsOf_front (htimed.clocked _ (List.fst_mem_of_mem_zipIdx hplaced)) hs
  obtain ⟨entry, hentry, he⟩ := exists_of_mem_turns ht
  obtain ⟨source, hsource, rfl⟩ := List.mem_map.mp hentry
  have hmember : t.event ∈ source.2 := (back_suffix c source.2).subset he
  have hclocked := htimed.clocked source hsource _ hmember
  obtain ⟨d, hd⟩ := Option.isSome_iff_exists.mp hclocked
  have hother : t.event.time? = some d := (Event.time?_eq_clock? hclocked).trans hd
  have hlate : c ≤ d :=
    hearliest.late source hsource d (Event.mem_clocks.mpr ⟨_, hmember, hd⟩)
  rw [Turn.key_lt_iff, Turn.event_behind, htime, hother]
  rcases hlate.lt_or_eq with hlater | rfl
  · exact .inl (WithBot.coe_lt_coe.mpr hlater)
  · refine .inr ⟨rfl, .inl ?_⟩
    simp [Turn.behind, hother, hnone]

/-- A round takes the turns of the heads and puts the others of its time forward. -/
theorem turns_perm_round (htimed : Timed queues) (hearliest : Earliest queues c) :
    (turns (queues.map fun entry => (entry.1, front c entry.2)) ++
      (turns (queues.map fun entry => (entry.1, back c entry.2))).map
        (Turn.behind (some c))).Perm (turns queues) := by
  have hsplit : turns queues = queues.zipIdx.flatMap fun placed =>
      turnsOf placed.2 placed.1.1 (front c placed.1.2) ++
        (turnsOf placed.2 placed.1.1 (back c placed.1.2)).map (Turn.behind (some c)) := by
    apply List.flatMap_congr
    intro placed hplaced
    have hentry := List.fst_mem_of_mem_zipIdx hplaced
    exact turnsOf_eq_front_append_back placed.2 placed.1.1 (htimed.clocked _ hentry)
      (htimed.ordered _ hentry) (hearliest.late _ hentry)
  rw [hsplit, turns_map, turns_map, List.map_flatMap]
  exact List.flatMap_append_perm _ _ _

theorem Arranges.round {later : List Turn} (htimed : Timed queues) (hearliest : Earliest queues c)
    (hlater : Arranges (queues.map fun entry => (entry.1, back c entry.2)) later) :
    Arranges queues (turns (queues.map fun entry => (entry.1, front c entry.2)) ++
      later.map (Turn.behind (some c))) := by
  refine ⟨?_, ?_⟩
  · have hrest := hlater.all.map (Turn.behind (some c))
    exact (hrest.append_left _).trans (turns_perm_round htimed hearliest)
  · rw [List.pairwise_append]
    refine ⟨sorted_turns_front htimed c, ?_, ?_⟩
    · rw [List.pairwise_map]
      exact hlater.sorted.imp fun h => Turn.key_behind_lt h (some c)
    · intro s hs t ht
      obtain ⟨source, hsource, rfl⟩ := List.mem_map.mp ht
      exact key_front_lt_behind htimed hearliest hs (hlater.all.subset hsource)

/-- No two turns have the same key, so their order is the only one. -/
theorem Arranges.unique {arranged other : List Turn} (h : Arranges queues arranged)
    (hother : other.Perm (turns queues)) (hsorted : other.Pairwise (·.key ≤ ·.key)) :
    other = arranged := by
  have hkeys : (arranged.map Turn.key).Nodup :=
    List.pairwise_map.mpr (h.sorted.imp fun hlt => hlt.ne)
  apply List.Perm.eq_of_pairwise _ hsorted (h.sorted.imp le_of_lt) (hother.trans h.all.symm)
  intro s t hs ht hst hts
  have hmember : s ∈ arranged := h.all.symm.subset (hother.subset hs)
  exact List.inj_on_of_nodup_map hkeys hmember ht (le_antisymm hst hts)

end NodeHistory.Interleaving

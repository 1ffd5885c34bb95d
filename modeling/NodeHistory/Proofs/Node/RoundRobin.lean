import NodeHistory.Proofs.Node.Turns
import NodeHistory.Proofs.Node.Walk

/-!
The order of a drain as the order of a sort. Where every event tells the clock and no node's clock
goes back, each round serves the nodes whose head has the earliest time of all, in the order of
their places, and the rounds that follow see the queues that this leaves. So a drain hands out all
events in the order of their turns: by time, at one time round by round, and in a round by place.
-/

namespace NodeHistory.Interleaving

open Time

variable {queues : List (String × List Event)} {c : Instant} {i : Interleaving}

/-! ### One round -/

theorem queues_foldl_advance {nodes : List String} (hnodes : nodes.Nodup) (i : Interleaving) :
    (nodes.foldl advance i).queues = i.queues.map fun entry =>
      if entry.1 ∈ nodes then (entry.1, entry.2.tail) else entry := by
  induction nodes generalizing i with
  | nil => simp
  | cons node nodes ih =>
      obtain ⟨hfresh, hrest⟩ := List.nodup_cons.mp hnodes
      rw [List.foldl_cons, ih hrest, advance, List.map_map]
      apply List.map_congr_left
      intro entry _
      simp only [Function.comp_apply, advanceEntry, List.mem_cons]
      by_cases hhere : entry.1 = node
      · simp [hhere, hfresh]
      · simp [hhere]

/-- A round with room for all its nodes takes the head of each. -/
theorem serve_eq {nodes : List String} (hnodes : nodes.Nodup)
    (hfilled : ∀ node ∈ nodes, i.queue node ≠ []) {limit : Nat} (hlimit : nodes.length ≤ limit) :
    serve nodes limit i =
      (nodes.filterMap fun node => (i.queue node).head?.map (node, ·), limit - nodes.length,
        nodes.foldl advance i) := by
  induction nodes generalizing i limit with
  | nil => simp [serve]
  | cons node nodes ih =>
      obtain ⟨hfresh, hrest⟩ := List.nodup_cons.mp hnodes
      obtain ⟨e, events, hqueue⟩ := List.exists_cons_of_ne_nil (hfilled node List.mem_cons_self)
      obtain ⟨limit, rfl⟩ : ∃ rest, limit = rest + 1 :=
        Nat.exists_eq_succ_of_ne_zero (Nat.ne_of_gt (Nat.lt_of_lt_of_le (Nat.succ_pos _) hlimit))
      have hothers : ∀ other ∈ nodes, (i.advance node).queue other = i.queue other := by
        intro other hother
        have hdiffers : other ≠ node := fun hsame => hfresh (hsame ▸ hother)
        rw [queue_advance, if_neg hdiffers]
      have hfilled' : ∀ other ∈ nodes, (i.advance node).queue other ≠ [] := by
        intro other hother
        rw [hothers other hother]
        exact hfilled other (List.mem_cons_of_mem _ hother)
      have hhead : (i.dequeue node).1 = some e := by simp [dequeue, hqueue]
      have hround := ih hrest hfilled' (Nat.le_of_succ_le_succ hlimit)
      have hpairs : (nodes.filterMap fun other => ((i.advance node).queue other).head?.map
          (other, ·)) = nodes.filterMap fun other => (i.queue other).head?.map (other, ·) :=
        List.filterMap_congr fun other hother => by rw [hothers other hother]
      rw [serve_of_dequeue_some hhead]
      change ((node, e) :: (serve nodes limit (i.advance node)).1,
        (serve nodes limit (i.advance node)).2) = _
      rw [hround, hpairs]
      simp [hqueue]

theorem nextNodes_filled {node : String} (h : node ∈ i.nextNodes) : i.queue node ≠ [] :=
  (mem_nextNodes.mp h).1

theorem length_nextNodes_le_size (i : Interleaving) : i.nextNodes.length ≤ i.size := by
  have hserve := serve_eq i.nodup_nextNodes (fun _ => nextNodes_filled) le_rfl
  obtain ⟨after, hyields, -⟩ := serve_yields i.nextNodes i.nextNodes.length i
  have hsize := hyields.length_add_size
  have hlength := length_serve i.nextNodes i.nextNodes.length i
  rw [hserve] at hsize hlength
  dsimp only at hsize hlength
  omega

theorem exists_startOf_of_filled {events : List Event}
    (hclocked : ∀ e ∈ events, e.clock?.isSome = true) (hfilled : events ≠ []) :
    ∃ d ∈ Event.clocks events, Event.startOf events = some d := by
  obtain ⟨e, rest, rfl⟩ := List.exists_cons_of_ne_nil hfilled
  obtain ⟨d, hd⟩ := Option.isSome_iff_exists.mp (hclocked e List.mem_cons_self)
  have hmember : d ∈ Event.clocks (e :: rest) :=
    Event.mem_clocks.mpr ⟨e, List.mem_cons_self, hd⟩
  exact ⟨d, hmember, Event.startOf_of_clocked hclocked ▸ hd⟩

theorem leads_iff (htimed : Timed queues) (hearliest : Earliest queues c)
    {entry : String × List Event} (hentry : entry ∈ queues) :
    Leads queues entry ↔ Event.startOf entry.2 = some c := by
  constructor
  · rintro ⟨hfilled, hleads⟩
    obtain ⟨d, hd, hstart⟩ := exists_startOf_of_filled (htimed.clocked entry hentry) hfilled
    obtain ⟨shown, hshown, hfirst⟩ := hearliest.shown
    have hshownFilled : shown.2 ≠ [] := by
      intro hnothing
      rw [hnothing] at hfirst
      cases hfirst
    have hbefore := hleads shown hshown hshownFilled
    rw [hstart, hfirst] at hbefore
    have hsame : d = c :=
      le_antisymm (WithBot.coe_le_coe.mp hbefore) (hearliest.late entry hentry d hd)
    rw [hstart, hsame]
  · intro hshown
    refine ⟨?_, ?_⟩
    · intro hnothing
      rw [hnothing] at hshown
      cases hshown
    · intro other hother hfilled
      obtain ⟨d, hd, hstart⟩ := exists_startOf_of_filled (htimed.clocked other hother) hfilled
      rw [hshown, hstart]
      exact WithBot.coe_le_coe.mpr (hearliest.late other hother d hd)

theorem exists_earliest (htimed : Timed i.queues) (hmore : i.more = true) :
    ∃ c, Earliest i.queues c := by
  obtain ⟨node, hnode⟩ := more_iff.mp hmore
  obtain ⟨entry, hmember, hfilled, hleads⟩ := exists_leads (mem_of_queue_ne_nil hnode) hnode
  obtain ⟨c, -, hstart⟩ := exists_startOf_of_filled (htimed.clocked entry hmember) hfilled
  refine ⟨c, ⟨entry, hmember, hstart⟩, ?_⟩
  intro other hother d hd
  have hotherFilled : other.2 ≠ [] := by
    intro hnothing
    rw [hnothing] at hd
    cases hd
  have hbefore := hleads other hother hotherFilled
  rw [hstart] at hbefore
  have hnext := hbefore.trans (Event.rank_startOf_le (htimed.ordered other hother) hd)
  exact WithBot.coe_le_coe.mp hnext

/-- A round hands out the front of every queue and leaves the back. -/
theorem serve_nextNodes (htimed : Timed i.queues) (hearliest : Earliest i.queues c) {limit : Nat}
    (hlimit : i.size ≤ limit) :
    (serve i.nextNodes limit i).1 =
        (turns (i.queues.map fun entry => (entry.1, front c entry.2))).map Turn.pair ∧
      (serve i.nextNodes limit i).2.2.queues =
        i.queues.map fun entry => (entry.1, back c entry.2) := by
  rw [serve_eq i.nodup_nextNodes (fun _ => nextNodes_filled)
    (i.length_nextNodes_le_size.trans hlimit)]
  refine ⟨?_, ?_⟩
  · rw [map_pair_turns, List.flatMap_map, nextNodes_eq, List.filterMap_map, List.filterMap_filter,
      List.filterMap_eq_flatMap_toList]
    apply List.flatMap_congr
    intro entry hentry
    simp only [leads_iff htimed hearliest hentry, decide_eq_true_eq, Function.comp_apply,
      queue_of_mem hentry, front]
    split
    · cases entry.2 <;> rfl
    · rfl
  · rw [queues_foldl_advance i.nodup_nextNodes]
    apply List.map_congr_left
    intro entry hentry
    simp only [mem_nextNodes_iff_leads hentry, leads_iff htimed hearliest hentry, back]
    split <;> rfl

theorem arranges_nil (hempty : i.more = false) : Arranges i.queues [] := by
  have hnone : turns i.queues = [] := by
    apply List.flatMap_eq_nil_iff.mpr
    intro placed hplaced
    have hqueue := queue_of_mem (List.fst_mem_of_mem_zipIdx hplaced)
    rw [queue_eq_nil_of_not_more hempty] at hqueue
    change turnsOf placed.2 placed.1.1 placed.1.2 = []
    rw [← hqueue, turnsOf_nil]
  exact ⟨hnone ▸ List.Perm.refl _, List.Pairwise.nil⟩

theorem drainRounds_of_not_more (hempty : i.more = false) (rounds limit : Nat) :
    drainRounds rounds limit i = ([], i) := by
  cases rounds with
  | zero => rfl
  | succ rounds =>
      cases limit with
      | zero => rfl
      | succ limit => simp [drainRounds, hempty]

/-- Rounds enough for all events hand them out in the order of their turns. -/
theorem exists_arranged_drainRounds (rounds limit : Nat) (i : Interleaving)
    (htimed : Timed i.queues) (hrounds : i.size ≤ rounds) (hlimit : i.size ≤ limit) :
    ∃ arranged, Arranges i.queues arranged ∧
      (drainRounds rounds limit i).1 = arranged.map Turn.pair := by
  induction rounds generalizing limit i with
  | zero =>
      have hempty : i.more = false := size_eq_zero_iff.mp (Nat.le_zero.mp hrounds)
      exact ⟨[], arranges_nil hempty, rfl⟩
  | succ rounds ih =>
      cases hmore : i.more with
      | false =>
          rw [drainRounds_of_not_more hmore]
          exact ⟨[], arranges_nil hmore, rfl⟩
      | true =>
          have hsize : i.size ≠ 0 := fun hzero => by simp [size_eq_zero_iff.mp hzero] at hmore
          obtain ⟨limit, rfl⟩ : ∃ rest, limit = rest + 1 :=
            Nat.exists_eq_succ_of_ne_zero (by omega)
          -- A round hands out an event, so what it leaves is within the rounds that remain.
          obtain ⟨c, hearliest⟩ := exists_earliest htimed hmore
          obtain ⟨hpairs, hqueues⟩ := serve_nextNodes htimed hearliest hlimit
          obtain ⟨after, hserved, -⟩ := serve_yields i.nextNodes (limit + 1) i
          have hhanded := hserved.length_add_size
          have hlength := length_serve i.nextNodes (limit + 1) i
          have hpositive := length_serve_nextNodes_pos hmore limit
          simp only [drainRounds, hmore, if_true]
          generalize serve i.nextNodes (limit + 1) i = served at *
          obtain ⟨pairs, left, rest⟩ := served
          dsimp only at *
          obtain ⟨later, hlater, hdrained⟩ :=
            ih left rest (hqueues ▸ htimed.map_back c) (by omega) (by omega)
          refine ⟨_, (hqueues ▸ hlater).round htimed hearliest, ?_⟩
          rw [hdrained, hpairs, List.map_append, List.map_map]
          congr 1
          exact List.map_congr_left fun t _ => (Turn.pair_behind (some c) t).symm

/-- Where every event tells the clock and no node's clock goes back, a drain hands out the events
of all nodes by time, then by how many of the node's events before them have that time, then by the
node's place in the registry; and this tells the order of any two of them. -/
theorem drain_sorts_by_turn {r : Registry}
    (hclocked : ∀ entry ∈ r.nodes, ∀ e ∈ entry.2.events, e.clock?.isSome = true)
    (hordered : r.Ordered) :
    ∃ arranged : List Turn, arranged.Perm (turns (ofRegistry r).queues) ∧
      arranged.Pairwise (·.key < ·.key) ∧
      (ofRegistry r).drain.1 = arranged.map Turn.pair ∧
      ∀ other : List Turn, other.Perm (turns (ofRegistry r).queues) →
        other.Pairwise (·.key ≤ ·.key) → other = arranged := by
  have htimed : Timed (ofRegistry r).queues := by
    refine ⟨?_, ?_⟩
    · intro entry hentry
      obtain ⟨stored, hstored, rfl⟩ := List.mem_map.mp hentry
      exact hclocked stored hstored
    · intro entry hentry
      obtain ⟨stored, hstored, rfl⟩ := List.mem_map.mp hentry
      exact hordered stored hstored
  obtain ⟨arranged, harranges, hdrained⟩ :=
    exists_arranged_drainRounds (ofRegistry r).size (ofRegistry r).size (ofRegistry r) htimed
      le_rfl le_rfl
  exact ⟨arranged, harranges.all, harranges.sorted, hdrained, fun other => harranges.unique⟩

/-- Three nodes with events at 1, of which one repeats it twice, and two with events at 4; a node
without events stands between them. -/
def echoingNodes : Registry where
  nodes :=
    [("A", { events := [.bare "/logs/A/e.log" 1, .bare "/logs/A/e.log" 1, .bare "/logs/A/e.log" 1,
        .bare "/logs/A/e.log" 4] }),
      ("B", { events := [.bare "/logs/B/e.log" 1, .bare "/logs/B/e.log" 4,
        .bare "/logs/B/e.log" 4] }),
      ("C", {}),
      ("D", { events := [.bare "/logs/D/e.log" 1] })]
  distinct := by decide

theorem echoing_nodes_drained_by_turn :
    (∀ entry ∈ echoingNodes.nodes, ∀ e ∈ entry.2.events, e.clock?.isSome = true) ∧
      echoingNodes.Ordered ∧
      (ofRegistry echoingNodes).drain.1.map (·.1) = ["A", "B", "D", "A", "A", "A", "B", "B"] ∧
      ∃ arranged : List Turn, arranged.Perm (turns (ofRegistry echoingNodes).queues) ∧
        arranged.Pairwise (·.key < ·.key) ∧
        (ofRegistry echoingNodes).drain.1 = arranged.map Turn.pair := by
  have hclocked : ∀ entry ∈ echoingNodes.nodes, ∀ e ∈ entry.2.events, e.clock?.isSome = true := by
    decide +kernel
  have hordered : echoingNodes.Ordered := by decide +kernel
  obtain ⟨arranged, hall, hsorted, hdrained, -⟩ := drain_sorts_by_turn hclocked hordered
  exact ⟨hclocked, hordered, by decide +kernel, arranged, hall, hsorted, hdrained⟩

end NodeHistory.Interleaving

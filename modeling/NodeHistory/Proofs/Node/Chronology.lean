import NodeHistory.Proofs.Node.Walk

/-!
The order of time across nodes. A schedule asks for the nodes that come next and dequeues from the
nodes of the latest answer, from each at most once; it may leave some of them out and ask again at
any point. While an answer is being served, every node of it that has not had its turn shows the
same next clock, the floor, and no clock that is left anywhere is before the floor. Nothing
relates the floors of two answers: one may show none where the other shows a clock.
-/

namespace NodeHistory.Interleaving

open Time Registry

/-- A schedule hands out the given events; `named` holds the nodes of the latest answer that have
not been dequeued from. -/
inductive Scheduled : Interleaving → List String → List (String × Event) → Interleaving →
    List String → Prop where
  | idle (i : Interleaving) (named : List String) : Scheduled i named [] i named
  | ask {i left : Interleaving} {named rest : List String} {pairs : List (String × Event)}
      (later : Scheduled i i.nextNodes pairs left rest) : Scheduled i named pairs left rest
  | serve {i left : Interleaving} {named rest : List String} {pairs : List (String × Event)}
      (node : String) (hnamed : node ∈ named)
      (later : Scheduled (i.dequeue node).2 (named.erase node) pairs left rest) :
      Scheduled i named (((i.dequeue node).1.map (node, ·)).toList ++ pairs) left rest

/-- The authoritative times among the events handed out. -/
def handedClocks (pairs : List (String × Event)) : List Instant :=
  Event.clocks (pairs.map (·.2))

@[simp] theorem handedClocks_append (first second : List (String × Event)) :
    handedClocks (first ++ second) = handedClocks first ++ handedClocks second := by
  simp [handedClocks]

variable {i left : Interleaving} {named rest : List String} {pairs : List (String × Event)}

/-! ### The floor -/

/-- The state of a schedule while an answer is being served. -/
structure Paced (floor : Option Instant) (named : List String) (i : Interleaving) : Prop where
  distinct : named.Nodup
  ordered (node : String) : (Event.clocks (i.queue node)).Pairwise (· ≤ ·)
  next : ∀ node ∈ named, Event.startOf (i.queue node) = floor
  late (node : String) : ∀ c ∈ Event.clocks (i.queue node), rank floor ≤ c

theorem queue_dequeue_sublist (i : Interleaving) (node other : String) :
    ((i.dequeue node).2.queue other).Sublist (i.queue other) := by
  change ((i.advance node).queue other).Sublist (i.queue other)
  rw [queue_advance]
  split
  · rename_i hsame
    rw [hsame]
    exact List.tail_sublist _
  · exact List.Sublist.refl _

theorem Paced.ask {floor : Option Instant} (h : Paced floor named i) :
    ∃ lowest, Paced lowest i.nextNodes i := by
  cases hnames : i.nextNodes with
  | nil => exact ⟨floor, List.nodup_nil, h.ordered, List.forall_mem_nil _, h.late⟩
  | cons first others =>
      have hfirst : first ∈ i.nextNodes := hnames ▸ List.mem_cons_self
      rw [← hnames]
      refine ⟨Event.startOf (i.queue first), i.nodup_nextNodes, h.ordered, ?_, ?_⟩
      · intro node hnode
        obtain ⟨hfilled, hleads⟩ := mem_nextNodes.mp hnode
        obtain ⟨hfilled₁, hleads₁⟩ := mem_nextNodes.mp hfirst
        exact rank_injective (le_antisymm (hleads first hfilled₁) (hleads₁ node hfilled))
      · intro node c hc
        have hfilled : i.queue node ≠ [] := by
          intro hnothing
          rw [hnothing] at hc
          cases hc
        exact ((mem_nextNodes.mp hfirst).2 node hfilled).trans
          (Event.rank_startOf_le (h.ordered node) hc)

theorem Paced.serve {floor : Option Instant} (h : Paced floor named i) (node : String) :
    Paced floor (named.erase node) (i.dequeue node).2 := by
  refine ⟨h.distinct.erase node, ?_, ?_, ?_⟩
  · intro other
    exact (h.ordered other).sublist ((queue_dequeue_sublist i node other).filterMap _)
  · intro other hother
    obtain ⟨hdiffers, hnamed⟩ := h.distinct.mem_erase_iff.mp hother
    change Event.startOf ((i.advance node).queue other) = floor
    rw [queue_advance, if_neg hdiffers]
    exact h.next other hnamed
  · intro other c hc
    exact h.late other c (((queue_dequeue_sublist i node other).filterMap _).subset hc)

/-- The clock that an event of a named node shows is the floor. -/
theorem Paced.clock_eq_floor {floor : Option Instant} (h : Paced floor named i) {node : String}
    (hnamed : node ∈ named) {c : Instant}
    (hc : c ∈ handedClocks ((i.dequeue node).1.map (node, ·)).toList) : floor = some c := by
  change c ∈ handedClocks ((i.queue node).head?.map (node, ·)).toList at hc
  rw [← h.next node hnamed]
  cases hqueue : i.queue node with
  | nil => simp [hqueue, handedClocks, Event.clocks] at hc
  | cons e events =>
      have hclock : e.clock? = some c := by
        simpa [hqueue, handedClocks, Event.mem_clocks] using hc
      simp [Event.startOf, hclock]

/-- Whatever a schedule hands out was in a queue. -/
theorem Scheduled.exists_mem_queue (h : Scheduled i named pairs left rest) {c : Instant}
    (hc : c ∈ handedClocks pairs) : ∃ node, c ∈ Event.clocks (i.queue node) := by
  induction h with
  | idle i named => cases hc
  | ask later ih => exact ih hc
  | @serve i left named rest pairs node hnamed later ih =>
      rw [handedClocks_append] at hc
      rcases List.mem_append.mp hc with hnow | hlater
      · refine ⟨node, ?_⟩
        change c ∈ handedClocks ((i.queue node).head?.map (node, ·)).toList at hnow
        cases hqueue : i.queue node with
        | nil => simp [hqueue, handedClocks, Event.clocks] at hnow
        | cons e events =>
            have hclock : e.clock? = some c := by
              simpa [hqueue, handedClocks, Event.mem_clocks] using hnow
            exact Event.mem_clocks.mpr ⟨e, List.mem_cons_self, hclock⟩
      · obtain ⟨other, hother⟩ := ih hlater
        exact ⟨other, ((queue_dequeue_sublist i node other).filterMap _).subset hother⟩

theorem Scheduled.chronological (h : Scheduled i named pairs left rest) {floor : Option Instant}
    (hpaced : Paced floor named i) : (handedClocks pairs).Pairwise (· ≤ ·) := by
  induction h generalizing floor with
  | idle i named => exact List.Pairwise.nil
  | ask later ih =>
      obtain ⟨lowest, hlowest⟩ := hpaced.ask
      exact ih hlowest
  | @serve i left named rest pairs node hnamed later ih =>
      have hserved := hpaced.serve node
      rw [handedClocks_append, List.pairwise_append]
      refine ⟨?_, ih hserved, ?_⟩
      · cases (i.dequeue node).1 with
        | none => exact List.Pairwise.nil
        | some e => cases hclock : e.clock? <;> simp [handedClocks, Event.clocks, hclock]
      · intro c hc d hd
        obtain ⟨other, hother⟩ := later.exists_mem_queue hd
        have hfloor := hserved.late other d hother
        rw [hpaced.clock_eq_floor hnamed hc] at hfloor
        exact WithBot.coe_le_coe.mp hfloor

/-! ### Walks and drains are schedules -/

theorem Scheduled.trans {between : Interleaving} {middle : List String}
    {more : List (String × Event)} (first : Scheduled i named pairs between middle)
    (second : Scheduled between middle more left rest) :
    Scheduled i named (pairs ++ more) left rest := by
  induction first with
  | idle i named => exact second
  | ask later ih => exact .ask (ih second)
  | serve node hnamed later ih =>
      rw [List.append_assoc]
      exact .serve node hnamed (ih second)

/-- A schedule that need not go on with an answer can begin whatever the latest answer was. -/
theorem Scheduled.exists_of_nil (h : Scheduled i [] pairs left rest) (named : List String) :
    ∃ rest, Scheduled i named pairs left rest := by
  cases h with
  | idle => exact ⟨named, .idle i named⟩
  | ask later => exact ⟨rest, .ask later⟩
  | serve node hnamed => cases hnamed

/-- The nodes that a walk is still to serve before it asks again. -/
def Walk.owed : Walk → List String
  | serving nodes => nodes
  | asking | finished => []

theorem Yields.scheduled {walk walkLeft : Walk} (h : Yields walk i pairs walkLeft left) :
    Scheduled i walk.owed pairs left walkLeft.owed := by
  induction h with
  | stay walk i => exact .idle i walk.owed
  | @step walk walkLeft i left pairs later ih =>
      cases walk with
      | asking =>
          cases hmore : i.more with
          | false =>
              rw [step_asking_of_not_more hmore] at ih ⊢
              exact ih
          | true =>
              rw [step_asking_of_more hmore] at ih ⊢
              exact .ask ih
      | serving nodes =>
          cases nodes with
          | nil => exact ih
          | cons node nodes =>
              have hrest : Walk.owed (.serving nodes) = (node :: nodes).erase node :=
                (List.erase_cons_head ..).symm
              change Scheduled (i.dequeue node).2 (Walk.owed (.serving nodes)) pairs left _ at ih
              rw [hrest] at ih
              exact .serve node List.mem_cons_self ih
      | finished => exact ih

/-- A succession of drains, each cut short at its limit. -/
def takes : List Nat → Interleaving → List (String × Event) × Interleaving
  | [], i => ([], i)
  | limit :: limits, i =>
    ((i.take limit).1 ++ (takes limits (i.take limit).2).1, (takes limits (i.take limit).2).2)

theorem exists_scheduled_takes (limits : List Nat) (i : Interleaving) (named : List String) :
    ∃ rest, Scheduled i named (takes limits i).1 (takes limits i).2 rest := by
  induction limits generalizing i named with
  | nil => exact ⟨named, .idle i named⟩
  | cons limit limits ih =>
      obtain ⟨walkLeft, hyields, -⟩ := i.take_yields limit
      obtain ⟨middle, hfirst⟩ := hyields.scheduled.exists_of_nil named
      obtain ⟨rest, hlater⟩ := ih (i.take limit).2 middle
      exact ⟨rest, hfirst.trans hlater⟩

theorem paced_ofRegistry {r : Registry} (hr : r.Ordered) : Paced none [] (ofRegistry r) := by
  refine ⟨List.nodup_nil, ?_, List.forall_mem_nil _, fun _ _ _ => bot_le⟩
  intro node
  rw [queue_ofRegistry]
  cases hget : r.get? node with
  | none => exact List.Pairwise.nil
  | some t => exact hr.get? hget

/-- Out of a registry whose nodes are ordered the events of all nodes come in the order of time:
by any schedule, by any walk whether it comes to its end or not, and by any succession of drains
that are cut short. -/
theorem handed_out_in_order_of_time {r : Registry} (hordered : r.Ordered) :
    (∀ pairs left rest, Scheduled (ofRegistry r) [] pairs left rest →
        (handedClocks pairs).Pairwise (· ≤ ·)) ∧
      (∀ pairs walkLeft left, Yields .asking (ofRegistry r) pairs walkLeft left →
        (handedClocks pairs).Pairwise (· ≤ ·)) ∧
      (∀ limits, (handedClocks (takes limits (ofRegistry r)).1).Pairwise (· ≤ ·)) ∧
      (handedClocks (ofRegistry r).drain.1).Pairwise (· ≤ ·) := by
  have hpaced := paced_ofRegistry hordered
  refine ⟨?_, ?_, ?_, ?_⟩
  · intro pairs left rest hscheduled
    exact hscheduled.chronological hpaced
  · intro pairs walkLeft left hyields
    exact hyields.scheduled.chronological hpaced
  · intro limits
    obtain ⟨rest, hscheduled⟩ := exists_scheduled_takes limits (ofRegistry r) []
    exact hscheduled.chronological hpaced
  · exact (ofRegistry r).drain_yields.scheduled.chronological hpaced

/-- Two nodes whose clocks tie at 3. One of them begins with a notice that is later than all. -/
def tiedNodes : Registry :=
  (fresh none).run
    [.byDirectory "/logs/A/error.log"
        ⟨[.bare "/logs/A/recovery.log" 9 "recovery.log", .bare "/logs/A/error.log" 1,
          .bare "/logs/A/error.log" 3, .bare "/logs/A/error.log" 5], .samePattern⟩,
      .byDirectory "/logs/B/error.log"
        ⟨[.bare "/logs/B/error.log" 2, .bare "/logs/B/error.log" 3, .bare "/logs/B/error.log" 4],
          .samePattern⟩]

/-- A drain, and a schedule that serves the second node of the tie first and asks again before the
first has had its turn. -/
theorem tied_nodes_in_order_of_time :
    tiedNodes.Ordered ∧
      (ofRegistry tiedNodes).drain.1.map (·.1) = ["A", "A", "B", "A", "B", "B", "A"] ∧
      (handedClocks (ofRegistry tiedNodes).drain.1).Pairwise (· ≤ ·) ∧
      ∃ pairs left rest, Scheduled (ofRegistry tiedNodes) [] pairs left rest ∧
        pairs.map (·.1) = ["A", "A", "B", "B", "A"] ∧
        (handedClocks pairs).Pairwise (· ≤ ·) := by
  have hordered : tiedNodes.Ordered := by decide +kernel
  obtain ⟨hschedules, -, -, hdrain⟩ := handed_out_in_order_of_time hordered
  refine ⟨hordered, by decide +kernel, hdrain, ?_⟩
  have hscheduled : Scheduled (ofRegistry tiedNodes) [] _ _ _ :=
    .ask (.serve "A" (by decide +kernel) (.ask (.serve "A" (by decide +kernel)
      (.ask (.serve "B" (by decide +kernel) (.ask (.serve "B" (by decide +kernel)
        (.ask (.serve "A" (by decide +kernel) (.idle _ _))))))))))
  exact ⟨_, _, _, hscheduled, by decide +kernel, hschedules _ _ _ hscheduled⟩

end NodeHistory.Interleaving

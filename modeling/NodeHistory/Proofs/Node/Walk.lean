import NodeHistory.Proofs.Node.Queues

/-!
Draining an interleaving step by step. A walk asks for the nodes to serve, serves them in turn and
asks again until nothing is left. Between its steps others may dequeue, so that a node may have
nothing left when its turn comes; it is then passed over. Whatever a walk hands out comes off the
queues' heads, and a walk that goes on alone comes to an end with all queues empty. `take` and
`drain` are such walks, cut short after some events or not at all.
-/

namespace NodeHistory.Interleaving

inductive Walk where
  | asking
  | serving (nodes : List String)
  | finished
deriving DecidableEq

/-- One step of a walk: what it hands out, the walk that remains and what is left. -/
def Walk.step (i : Interleaving) : Walk → Option (String × Event) × Walk × Interleaving
  | asking => if i.more then (none, serving i.nextNodes, i) else (none, finished, i)
  | serving [] => (none, asking, i)
  | serving (node :: nodes) =>
    ((i.dequeue node).1.map (node, ·), serving nodes, (i.dequeue node).2)
  | finished => (none, finished, i)

theorem step_asking_of_more {i : Interleaving} (hmore : i.more = true) :
    Walk.asking.step i = (none, .serving i.nextNodes, i) := by
  simp [Walk.step, hmore]

theorem step_asking_of_not_more {i : Interleaving} (hempty : i.more = false) :
    Walk.asking.step i = (none, .finished, i) := by
  simp [Walk.step, hempty]

/-- A walk that takes steps on its own hands out the given events. -/
inductive Yields : Walk → Interleaving → List (String × Event) → Walk → Interleaving → Prop where
  | stay (walk : Walk) (i : Interleaving) : Yields walk i [] walk i
  | step {walk rest : Walk} {i left : Interleaving} {pairs : List (String × Event)}
      (later : Yields (walk.step i).2.1 (walk.step i).2.2 pairs rest left) :
      Yields walk i ((walk.step i).1.toList ++ pairs) rest left

variable {walk rest : Walk} {i left : Interleaving} {pairs : List (String × Event)}

namespace Yields

theorem trans {middle : Walk} {between : Interleaving} {more : List (String × Event)}
    (first : Yields walk i pairs middle between) (second : Yields middle between more rest left) :
    Yields walk i (pairs ++ more) rest left := by
  induction first with
  | stay walk i => exact second
  | step later ih =>
      rw [List.append_assoc]
      exact .step (ih second)

theorem ask (hmore : i.more = true) (later : Yields (.serving i.nextNodes) i pairs rest left) :
    Yields .asking i pairs rest left := by
  have hyields : Yields .asking i ((Walk.asking.step i).1.toList ++ pairs) rest left := by
    apply Yields.step
    rw [step_asking_of_more hmore]
    exact later
  rwa [step_asking_of_more hmore] at hyields

theorem finish (hempty : i.more = false) : Yields .asking i [] .finished i := by
  have hyields : Yields .asking i ((Walk.asking.step i).1.toList ++ []) .finished i := by
    apply Yields.step
    rw [step_asking_of_not_more hempty]
    exact .stay .finished i
  rwa [step_asking_of_not_more hempty] at hyields

theorem round (later : Yields .asking i pairs rest left) : Yields (.serving []) i pairs rest left :=
  .step later

theorem serve {node : String} {nodes : List String}
    (later : Yields (.serving nodes) (i.dequeue node).2 pairs rest left) :
    Yields (.serving (node :: nodes)) i (((i.dequeue node).1.map (node, ·)).toList ++ pairs)
      rest left :=
  .step later

end Yields

/-! ### Nothing is lost or repeated -/

/-- The events among those handed out that are a node's. -/
def handedTo (node : String) (pairs : List (String × Event)) : List Event :=
  pairs.filterMap fun pair => if pair.1 = node then some pair.2 else none

@[simp] theorem handedTo_nil (node : String) : handedTo node [] = [] := rfl

@[simp] theorem handedTo_append (node : String) (first second : List (String × Event)) :
    handedTo node (first ++ second) = handedTo node first ++ handedTo node second :=
  List.filterMap_append

theorem handedTo_dequeue (i : Interleaving) (node other : String) :
    handedTo other ((i.dequeue node).1.map (node, ·)).toList ++ (i.dequeue node).2.queue other =
      i.queue other := by
  change handedTo other ((i.queue node).head?.map (node, ·)).toList ++
    (i.advance node).queue other = i.queue other
  rw [queue_advance]
  by_cases hsame : other = node
  · subst hsame
    rw [if_pos rfl]
    cases i.queue other with
    | nil => rfl
    | cons e events => simp [handedTo]
  · have hdiffers : ¬ node = other := fun h => hsame h.symm
    rw [if_neg hsame]
    cases i.queue node with
    | nil => rfl
    | cons e events => simp [handedTo, hdiffers]

theorem handedTo_step (walk : Walk) (i : Interleaving) (node : String) :
    handedTo node (walk.step i).1.toList ++ (walk.step i).2.2.queue node = i.queue node := by
  cases walk with
  | asking => cases hmore : i.more <;> simp [Walk.step, hmore]
  | serving nodes =>
      cases nodes with
      | nil => rfl
      | cons first nodes => exact handedTo_dequeue i first node
  | finished => rfl

theorem Yields.handedTo_append_queue (h : Yields walk i pairs rest left) (node : String) :
    handedTo node pairs ++ left.queue node = i.queue node := by
  induction h with
  | stay walk i => rfl
  | @step walk rest i left pairs later ih =>
      rw [handedTo_append, List.append_assoc, ih]
      exact handedTo_step walk i node

theorem size_dequeue (i : Interleaving) (node : String) :
    (i.dequeue node).1.toList.length + (i.dequeue node).2.size = i.size := by
  change (i.queue node).head?.toList.length + (i.advance node).size = i.size
  cases hqueue : i.queue node with
  | nil => simp [advance_of_queue_eq_nil hqueue]
  | cons e events =>
      have hsize : (i.advance node).size + 1 = i.size := size_advance (by simp [hqueue])
      simp only [List.head?_cons, Option.toList_some, List.length_singleton]
      omega

theorem size_step (walk : Walk) (i : Interleaving) :
    (walk.step i).1.toList.length + (walk.step i).2.2.size = i.size := by
  cases walk with
  | asking => cases hmore : i.more <;> simp [Walk.step, hmore]
  | serving nodes =>
      cases nodes with
      | nil => simp [Walk.step]
      | cons node nodes =>
          have hsize := size_dequeue i node
          simpa [Walk.step, Option.toList_map] using hsize
  | finished => simp [Walk.step]

theorem Yields.length_add_size (h : Yields walk i pairs rest left) :
    pairs.length + left.size = i.size := by
  induction h with
  | stay walk i => simp
  | @step walk rest i left pairs later ih =>
      have hstep := size_step walk i
      rw [List.length_append]
      omega

/-! ### Walks come to an end -/

/-- Where nothing is left, a walk ends without handing anything out. -/
theorem yields_finished_of_not_more (hempty : i.more = false) (walk : Walk) :
    Yields walk i [] .finished i := by
  have hserving (nodes : List String) : Yields (.serving nodes) i [] .finished i := by
    induction nodes with
    | nil => exact (Yields.finish hempty).round
    | cons node nodes ih =>
        have hqueue := queue_eq_nil_of_not_more hempty node
        have hdequeue : i.dequeue node = (none, i) := by
          rw [dequeue, hqueue, advance_of_queue_eq_nil hqueue]
          rfl
        have hserve : Yields (.serving nodes) (i.dequeue node).2 [] .finished i := by
          rw [hdequeue]
          exact ih
        simpa [hdequeue] using hserve.serve
  cases walk with
  | asking => exact .finish hempty
  | serving nodes => exact hserving nodes
  | finished => exact .stay .finished i

/-- A walk that came to its end by its own steps left nothing. -/
theorem Yields.not_more (h : Yields walk i pairs .finished left)
    (hdone : walk = .finished → i.more = false) : left.more = false := by
  generalize hrest : Walk.finished = rest at h
  induction h with
  | stay walk i => exact hdone hrest.symm
  | @step walk rest i left pairs later ih =>
      apply ih _ hrest
      intro hfinished
      cases walk with
      | asking =>
          cases hmore : i.more with
          | false => rwa [step_asking_of_not_more hmore]
          | true =>
              rw [step_asking_of_more hmore] at hfinished
              cases hfinished
      | serving nodes => cases nodes <;> simp [Walk.step] at hfinished
      | finished => exact hdone rfl

/-- A round comes to an end, whatever is left of the nodes it is to serve. -/
theorem exists_yields_asking (nodes : List String) (i : Interleaving) :
    ∃ pairs left, Yields (.serving nodes) i pairs .asking left := by
  induction nodes generalizing i with
  | nil => exact ⟨[], i, (Yields.stay .asking i).round⟩
  | cons node nodes ih =>
      obtain ⟨pairs, left, hround⟩ := ih (i.dequeue node).2
      exact ⟨_, left, hround.serve⟩

/-! ### Draining is walking -/

theorem serve_of_dequeue_none {node : String} {nodes : List String} {limit : Nat}
    (hhead : (i.dequeue node).1 = none) :
    serve (node :: nodes) (limit + 1) i = serve nodes (limit + 1) (i.dequeue node).2 := by
  rw [serve, ← Prod.mk.eta (p := i.dequeue node), hhead]

theorem serve_of_dequeue_some {node : String} {nodes : List String} {limit : Nat} {e : Event}
    (hhead : (i.dequeue node).1 = some e) :
    serve (node :: nodes) (limit + 1) i =
      ((node, e) :: (serve nodes limit (i.dequeue node).2).1,
        (serve nodes limit (i.dequeue node).2).2) := by
  rw [serve, ← Prod.mk.eta (p := i.dequeue node), hhead]

/-- Serving the nodes of one answer is a walk that stops after the last node or at the limit. -/
theorem serve_yields (nodes : List String) (limit : Nat) (i : Interleaving) :
    ∃ after, Yields (.serving nodes) i (serve nodes limit i).1 (.serving after)
        (serve nodes limit i).2.2 ∧ (after = [] ∨ (serve nodes limit i).2.1 = 0) := by
  induction nodes generalizing limit i with
  | nil => exact ⟨[], .stay _ i, Or.inl rfl⟩
  | cons node nodes ih =>
      cases limit with
      | zero => exact ⟨node :: nodes, .stay _ i, Or.inr rfl⟩
      | succ limit =>
          cases hhead : (i.dequeue node).1 with
          | none =>
              obtain ⟨after, hround, hstop⟩ := ih (limit + 1) (i.dequeue node).2
              rw [serve_of_dequeue_none hhead]
              refine ⟨after, ?_, hstop⟩
              simpa [hhead] using hround.serve
          | some e =>
              obtain ⟨after, hround, hstop⟩ := ih limit (i.dequeue node).2
              rw [serve_of_dequeue_some hhead]
              refine ⟨after, ?_, hstop⟩
              simpa [hhead] using hround.serve

theorem length_serve (nodes : List String) (limit : Nat) (i : Interleaving) :
    (serve nodes limit i).1.length + (serve nodes limit i).2.1 = limit := by
  induction nodes generalizing limit i with
  | nil => simp [serve]
  | cons node nodes ih =>
      cases limit with
      | zero => rfl
      | succ limit =>
          cases hhead : (i.dequeue node).1 with
          | none =>
              rw [serve_of_dequeue_none hhead]
              exact ih (limit + 1) (i.dequeue node).2
          | some e =>
              rw [serve_of_dequeue_some hhead]
              have hlength := ih limit (i.dequeue node).2
              dsimp only [List.length_cons]
              omega

/-- A round that asks for its nodes and has not met the limit hands out an event. -/
theorem length_serve_nextNodes_pos (hmore : i.more = true) (limit : Nat) :
    0 < (serve i.nextNodes (limit + 1) i).1.length := by
  obtain ⟨node, nodes, hnodes⟩ := List.exists_cons_of_ne_nil (nextNodes_ne_nil_iff.mpr hmore)
  have hfilled : i.queue node ≠ [] := by
    apply And.left
    apply mem_nextNodes.mp
    rw [hnodes]
    exact List.mem_cons_self
  obtain ⟨e, events, hqueue⟩ := List.exists_cons_of_ne_nil hfilled
  have hhead : (i.dequeue node).1 = some e := by simp [dequeue, hqueue]
  rw [hnodes, serve_of_dequeue_some hhead]
  exact Nat.succ_pos _

/-- Rounds enough for all events give a walk that ends, or that stops at the limit. -/
theorem drainRounds_yields (rounds limit : Nat) (i : Interleaving) (henough : i.size ≤ rounds) :
    ∃ rest, Yields .asking i (drainRounds rounds limit i).1 rest (drainRounds rounds limit i).2 ∧
      (rest = .finished ∨ (drainRounds rounds limit i).1.length = limit) := by
  induction rounds generalizing limit i with
  | zero =>
      have hempty : i.more = false := size_eq_zero_iff.mp (Nat.le_zero.mp henough)
      exact ⟨.finished, .finish hempty, Or.inl rfl⟩
  | succ rounds ih =>
      cases limit with
      | zero => exact ⟨.asking, .stay .asking i, Or.inr rfl⟩
      | succ limit =>
          cases hmore : i.more with
          | false =>
              simp only [drainRounds, hmore]
              exact ⟨.finished, .finish hmore, Or.inl rfl⟩
          | true =>
              simp only [drainRounds, hmore, if_true]
              obtain ⟨after, hserved, hstop⟩ := serve_yields i.nextNodes (limit + 1) i
              have hround : Yields .asking i _ _ _ := .ask hmore hserved
              have hlength := length_serve i.nextNodes (limit + 1) i
              have hpositive := length_serve_nextNodes_pos hmore limit
              have hsize := hserved.length_add_size
              generalize serve i.nextNodes (limit + 1) i = served at *
              obtain ⟨pairs, left, i₁⟩ := served
              dsimp only at *
              obtain ⟨rest, hlater, hend⟩ := ih left i₁ (by omega)
              rcases hstop with rfl | rfl
              · refine ⟨rest, hround.trans hlater.round, ?_⟩
                rw [List.length_append]
                rcases hend with hend | hend
                · exact Or.inl hend
                · exact Or.inr (by omega)
              · refine ⟨.serving after, ?_, Or.inr ?_⟩
                · cases rounds <;> simpa [drainRounds] using hround
                · cases rounds <;> simpa [drainRounds] using hlength

theorem take_yields (i : Interleaving) (limit : Nat) :
    ∃ rest, Yields .asking i (i.take limit).1 rest (i.take limit).2 ∧
      (rest = .finished ∨ (i.take limit).1.length = limit) :=
  drainRounds_yields i.size limit i le_rfl

theorem length_drainRounds_le (rounds limit : Nat) (i : Interleaving) :
    (drainRounds rounds limit i).1.length ≤ limit := by
  induction rounds generalizing limit i with
  | zero => exact Nat.zero_le limit
  | succ rounds ih =>
      cases limit with
      | zero => exact Nat.le_refl 0
      | succ limit =>
          cases hmore : i.more with
          | false => simp [drainRounds, hmore]
          | true =>
              have hserved := length_serve i.nextNodes (limit + 1) i
              simp only [drainRounds, hmore, if_true]
              generalize serve i.nextNodes (limit + 1) i = served at *
              obtain ⟨pairs, left, i₁⟩ := served
              have hlater := ih left i₁
              simp only [List.length_append] at hserved ⊢
              omega

/-- As many events are taken as the limit lets, or all that are left. -/
theorem length_take (i : Interleaving) (limit : Nat) :
    (i.take limit).1.length = min limit i.size := by
  obtain ⟨rest, hyields, hend⟩ := i.take_yields limit
  have hsize := hyields.length_add_size
  have hlimit := length_drainRounds_le i.size limit i
  rcases hend with rfl | hlength
  · have hempty : (i.take limit).2.size = 0 := size_eq_zero_iff.mpr (hyields.not_more nofun)
    rw [take] at hempty hsize ⊢
    omega
  · omega

/-- Draining is a walk that comes to its end. -/
theorem drain_yields (i : Interleaving) : Yields .asking i i.drain.1 .finished i.drain.2 := by
  obtain ⟨rest, hyields, hend⟩ := i.take_yields i.size
  rcases hend with rfl | hlength
  · exact hyields
  · have hsize := hyields.length_add_size
    have hempty : (i.take i.size).2.more = false := size_eq_zero_iff.mp (by omega)
    have hrest := hyields.trans (yields_finished_of_not_more hempty rest)
    rwa [List.append_nil] at hrest

/-- A walk under way that goes on alone comes to its end. -/
theorem exists_yields_finished (walk : Walk) (i : Interleaving) :
    ∃ pairs left, Yields walk i pairs .finished left := by
  cases walk with
  | asking => exact ⟨_, _, i.drain_yields⟩
  | serving nodes =>
      obtain ⟨pairs, between, hround⟩ := exists_yields_asking nodes i
      exact ⟨_, _, hround.trans between.drain_yields⟩
  | finished => exact ⟨[], i, .stay .finished i⟩

end NodeHistory.Interleaving

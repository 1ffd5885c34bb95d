import NodeHistory.Proofs.Node.Session

/-!
Which nodes come next. A node is foremost when it has an event left and the next clock of no node
with an event left is earlier than its own; a node with no clock left counts as unset, which is
the earliest. The search runs through the queues once and begins anew whenever it meets an earlier
clock, so that it has to tell an unset clock that it has met from none met at all. What it finds
are the foremost nodes, in the order in which the registry had them: nodes keep their places
whatever a client does, also when they have nothing left.
-/

namespace NodeHistory.Interleaving

open Time

/-- All nodes, those with nothing left among them. -/
def names (i : Interleaving) : List String := i.queues.map (·.1)

/-- The first authoritative time that a node has left, unset where it has none. -/
def nextClock? (i : Interleaving) (node : String) : Option Instant :=
  (Event.clocks (i.queue node)).head?

/-- The node has an event left, and no node with an event left has an earlier next clock. -/
def Foremost (i : Interleaving) (node : String) : Prop :=
  i.queue node ≠ [] ∧ ∀ other ∈ i.names, i.queue other ≠ [] →
    ¬ rank (i.nextClock? other) < rank (i.nextClock? node)

instance (i : Interleaving) (node : String) : Decidable (i.Foremost node) :=
  inferInstanceAs (Decidable (_ ∧ _))

variable {i left : Interleaving} {node : String}

/-! ### The search -/

theorem startOf_queue (i : Interleaving) (node : String) :
    Event.startOf (i.queue node) = i.nextClock? node :=
  Event.startOf_eq_head? _

theorem mem_names_of_filled (h : i.queue node ≠ []) : node ∈ i.names :=
  List.mem_map_of_mem (mem_of_queue_ne_nil h)

theorem mem_nextNodes_iff_foremost : node ∈ i.nextNodes ↔ i.Foremost node := by
  simp only [mem_nextNodes, startOf_queue]
  constructor
  · rintro ⟨hfilled, hleads⟩
    exact ⟨hfilled, fun other _ hother => not_lt.mpr (hleads other hother)⟩
  · rintro ⟨hfilled, hunpreceded⟩
    refine ⟨hfilled, ?_⟩
    intro other hother
    exact not_lt.mp (hunpreceded other (mem_names_of_filled hother) hother)

theorem nextNodes_eq_filter (i : Interleaving) :
    i.nextNodes = i.names.filter fun node => decide (i.Foremost node) := by
  rw [nextNodes_eq, names, List.filter_map]
  congr 1
  apply List.filter_congr
  intro entry hentry
  -- No name stands twice, so that an entry leads exactly where its name is in the answer.
  rw [Function.comp_apply, decide_eq_decide, ← mem_nextNodes_iff_foremost]
  exact (mem_nextNodes_iff_leads hentry).symm

/-! ### The order of the registry -/

theorem names_ofRegistry (r : Registry) : (ofRegistry r).names = r.names :=
  List.map_map

theorem names_advance (i : Interleaving) (node : String) : (i.advance node).names = i.names := by
  have hname : (·.1) ∘ advanceEntry node = (·.1) := funext (node_advanceEntry node)
  change (i.queues.map (advanceEntry node)).map (·.1) = i.queues.map (·.1)
  rw [List.map_map, hname]

theorem names_step (walk : Walk) (i : Interleaving) : (walk.step i).2.2.names = i.names := by
  cases walk with
  | asking => cases hmore : i.more <;> simp [Walk.step, hmore]
  | serving nodes =>
      cases nodes with
      | nil => rfl
      | cons node nodes => exact names_advance i node
  | finished => rfl

theorem Yields.names_eq {walk rest : Walk} {pairs : List (String × Event)}
    (h : Yields walk i pairs rest left) : left.names = i.names := by
  induction h with
  | stay walk i => rfl
  | @step walk rest i left pairs later ih => exact ih.trans (names_step walk i)

theorem Session.names_apply (s : Session) (request : Request) :
    (s.apply request).left.names = s.left.names := by
  obtain ⟨walk, rest, pairs, hyields, -⟩ := exists_yields_apply s request
  exact hyields.names_eq

theorem Session.names_run (s : Session) (requests : List Request) :
    (s.run requests).left.names = s.left.names := by
  induction requests generalizing s with
  | nil => rfl
  | cons request requests ih => exact (ih (s.apply request)).trans (s.names_apply request)

/-- Whatever the queues hold, the nodes that come next are the foremost ones, each once and in
their order; and at every point of a client's session this is the order of the registry. -/
theorem foremost_nodes_come_next :
    (∀ i : Interleaving,
        i.nextNodes = i.names.filter (fun node => decide (i.Foremost node)) ∧
          i.nextNodes.Nodup) ∧
      ∀ (r : Registry) (requests : List Request),
        ((Session.ofRegistry r).run requests).left.names = r.names := by
  refine ⟨?_, ?_⟩
  · intro i
    exact ⟨i.nextNodes_eq_filter, i.nodup_nextNodes⟩
  · intro r requests
    rw [Session.names_run]
    exact names_ofRegistry r

/-- The search begins anew at the notice of `C` and takes in `E`, which tells no time at all. -/
example :
    let i : Interleaving :=
      ⟨[("A", [.bare "/logs/A/error.log" 3]), ("B", []),
        ("C", [.bare "/logs/C/recovery.log" 9 "recovery.log"]),
        ("D", [.bare "/logs/D/error.log" 1]), ("E", [{}])], by decide⟩
    i.nextNodes = ["C", "E"] ∧
      i.names.filter (fun node => decide (i.Foremost node)) = ["C", "E"] := by
  decide +kernel

end NodeHistory.Interleaving

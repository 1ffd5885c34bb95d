import NodeHistory.Node.Registry

/-!
Walking the histories of all nodes in the order of time. Each node has a queue of events not yet
handed out. The nodes to serve next are those whose next authoritative time is earliest; a node
with none left counts as unset, which is the earliest of all. Several nodes are named at once
where clocks of whole seconds agree, and each of them then hands out the head of its queue.
-/

namespace NodeHistory

open Time

structure Interleaving where
  queues : List (String × List Event)
  distinct : (queues.map (·.1)).Nodup

namespace Interleaving

def entryOf (stored : String × Timeline) : String × List Event := (stored.1, stored.2.events)

theorem distinct_entries (r : Registry) : ((r.nodes.map entryOf).map (·.1)).Nodup := by
  rw [List.map_map]
  exact r.distinct

def ofRegistry (r : Registry) : Interleaving := ⟨r.nodes.map entryOf, distinct_entries r⟩

def queue (i : Interleaving) (node : String) : List Event := (i.queues.lookup node).getD []

def remaining (i : Interleaving) (node : String) : Nat := (i.queue node).length

/-- Some queue still holds an event. -/
def more (i : Interleaving) : Bool := i.queues.any fun entry => !entry.2.isEmpty

/-- The earliest next time met so far, with the nodes that share it. -/
structure Leaders where
  time? : Option Instant
  nodes : List String

def lead (best? : Option Leaders) (entry : String × List Event) : Option Leaders :=
  if entry.2.isEmpty then best?
  else
    let time? := Event.startOf entry.2
    match best? with
    | none => some ⟨time?, [entry.1]⟩
    | some best =>
      if precedes time? best.time? then some ⟨time?, [entry.1]⟩
      else if time? = best.time? then some { best with nodes := best.nodes ++ [entry.1] }
      else some best

def nextNodes (i : Interleaving) : List String :=
  match i.queues.foldl lead none with
  | none => []
  | some best => best.nodes

def advanceEntry (node : String) (entry : String × List Event) : String × List Event :=
  if entry.1 = node then (node, entry.2.tail) else entry

theorem node_advanceEntry (node : String) (entry : String × List Event) :
    (advanceEntry node entry).1 = entry.1 := by
  unfold advanceEntry
  split
  · rename_i here
    exact here.symm
  · rfl

theorem distinct_advance (i : Interleaving) (node : String) :
    ((i.queues.map (advanceEntry node)).map (·.1)).Nodup := by
  have same : (·.1) ∘ advanceEntry node = (·.1) := funext (node_advanceEntry node)
  rw [List.map_map, same]
  exact i.distinct

/-- Drops the head of a node's queue. -/
def advance (i : Interleaving) (node : String) : Interleaving :=
  ⟨i.queues.map (advanceEntry node), distinct_advance i node⟩

def dequeue (i : Interleaving) (node : String) : Option Event × Interleaving :=
  ((i.queue node).head?, i.advance node)

/-- Serves the nodes of one answer in turn, at most `limit` events of them, and tells how many
events may still be handed out. -/
def serve : List String → Nat → Interleaving → List (String × Event) × Nat × Interleaving
  | [], limit, i => ([], limit, i)
  | _, 0, i => ([], 0, i)
  | node :: nodes, limit + 1, i =>
    match i.dequeue node with
    | (none, i) => serve nodes (limit + 1) i
    | (some e, i) =>
      let (pairs, left, i) := serve nodes limit i
      ((node, e) :: pairs, left, i)

/-- Serves round after round; each round hands out an event, so there are at most as many rounds
as events. -/
def drainRounds : (rounds limit : Nat) → Interleaving → List (String × Event) × Interleaving
  | 0, _, i => ([], i)
  | _, 0, i => ([], i)
  | rounds + 1, limit + 1, i =>
    if i.more then
      let (pairs, left, i) := serve i.nextNodes (limit + 1) i
      let (later, i) := drainRounds rounds left i
      (pairs ++ later, i)
    else ([], i)

def size (i : Interleaving) : Nat := (i.queues.flatMap (·.2)).length

/-- The next events of all nodes in the order of time, at most `limit` of them. -/
def take (i : Interleaving) (limit : Nat) : List (String × Event) × Interleaving :=
  drainRounds i.size limit i

/-- Every event that is left, in the order of time. -/
def drain (i : Interleaving) : List (String × Event) × Interleaving := i.take i.size

end Interleaving

end NodeHistory

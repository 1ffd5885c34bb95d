import NodeHistory.Node.Name
import NodeHistory.Timeline.Merge

/-!
The timelines of all nodes. A segment joins a node by the name that its last event gives the
node, or by the directory from which it was read; either way it is merged with what is stored
there. No node is stored twice. Nodes stay in the order in which they were first stored, and a
node that is removed and stored again goes to the end.
-/

namespace NodeHistory

structure Registry where
  nodes : List (String × Timeline) := []
  book? : Option NameBook := none
  distinct : (nodes.map (·.1)).Nodup := by exact List.nodup_nil

namespace Registry

def get? (r : Registry) (node : String) : Option Timeline := r.nodes.lookup node

def contains (r : Registry) (node : String) : Bool := (r.get? node).isSome

def names (r : Registry) : List String := r.nodes.map (·.1)

/-- Replaces a node's timeline in its place, or adds the node at the end. -/
def putIn (node : String) (t : Timeline) : List (String × Timeline) → List (String × Timeline)
  | [] => [(node, t)]
  | entry :: entries =>
    if entry.1 = node then (node, t) :: entries else entry :: putIn node t entries

theorem names_putIn (node : String) (t : Timeline) (entries : List (String × Timeline)) :
    (putIn node t entries).map (·.1) =
      if node ∈ entries.map (·.1) then entries.map (·.1) else entries.map (·.1) ++ [node] := by
  induction entries with
  | nil => simp [putIn]
  | cons entry entries ih =>
      by_cases here : entry.1 = node
      · simp [putIn, here]
      · have elsewhere : ¬ node = entry.1 := fun h => here h.symm
        simp only [putIn, if_neg here, List.map_cons, ih, List.mem_cons, elsewhere, false_or]
        split <;> rfl

theorem distinct_putIn (node : String) (t : Timeline) {entries : List (String × Timeline)}
    (distinct : (entries.map (·.1)).Nodup) : ((putIn node t entries).map (·.1)).Nodup := by
  rw [names_putIn]
  split
  · exact distinct
  · rename_i absent
    refine List.nodup_append.mpr ⟨distinct, List.pairwise_singleton _ _, ?_⟩
    intro name present other last
    rw [List.mem_singleton.mp last]
    exact fun same => absent (same ▸ present)

theorem distinct_filter (keep : String × Timeline → Bool) {entries : List (String × Timeline)}
    (distinct : (entries.map (·.1)).Nodup) : ((entries.filter keep).map (·.1)).Nodup :=
  distinct.sublist (List.filter_sublist.map _)

def put (r : Registry) (node : String) (t : Timeline) : Registry :=
  { r with nodes := putIn node t r.nodes, distinct := distinct_putIn node t r.distinct }

def erase (r : Registry) (node : String) : Registry :=
  { r with nodes := r.nodes.filter (·.1 ≠ node), distinct := distinct_filter _ r.distinct }

/-- Records a sighting; `none` if the registry keeps no book of names. -/
def withSighting (r : Registry) (identity : Identity) (s : Sighting) : Option Registry :=
  r.book?.map fun book => { r with book? := some (book.record identity s) }

private def mergeNotices (notices : List MergeNotice) : List Notice := notices.map .merge

/-- Stores a segment under the node that its last event names. An empty segment names none. -/
def mergeByName (r : Registry) (segment : Timeline) :
    Option String × Registry × List Notice :=
  match segment.last? with
  | none => (none, r, [.registry .emptyIgnored])
  | some e =>
    let node := e.provenance.nodeName segment.finish? r.book?
    match r.get? node with
    | none => (some node, r.put node segment, [])
    | some existing =>
      let (answer, notices) := existing.merged segment
      (some node, r.put node (answer.timeline existing segment),
        .registry (.merging segment.events.length node) :: mergeNotices notices)

/-- The events of a node's entry come from a directory of the given name. -/
def startsIn (directory : String) (t : Timeline) : Bool :=
  match t.events.head? with
  | none => false
  | some e => Text.Path.parentName e.provenance.filePath = directory

/-- A filled entry that belongs to a directory, by its key or by the file of its first event. -/
def belongs (directory : String) (entry : String × Timeline) : Bool :=
  !entry.2.isEmpty && (entry.1 = directory || startsIn directory entry.2)

/-- One entry of the registry joins the segment, and leaves the place it had under another key. -/
def gather (path directory : String) (state : Registry × Timeline × List Notice)
    (entry : String × Timeline) : Registry × Timeline × List Notice :=
  let (r, segment, told) := state
  if belongs directory entry then
    let (answer, notices) := entry.2.merged segment
    (if entry.1 = directory then r else r.erase entry.1, answer.timeline entry.2 segment,
      told ++ .registry (.joining path entry.1) :: mergeNotices notices)
  else state

/-- Stores a segment under the name of its file's directory, merged with every entry that belongs
to that directory. -/
def mergeByDirectory (r : Registry) (path : String) (segment : Timeline) :
    String × Registry × List Notice :=
  let directory := Text.Path.parentName path
  let (rest, whole, told) := r.nodes.foldl (gather path directory) (r, segment, [])
  (directory, rest.put directory whole, told)

/-- The provenance of each filled node's last event. -/
def latest (r : Registry) : List (String × Provenance) :=
  r.nodes.filterMap fun (node, t) => t.last?.map fun e => (node, e.provenance)

/-- Every node with the number of its events. -/
def summary (r : Registry) : String :=
  let sizes := r.nodes.map fun (node, t) => node ++ "=" ++ toString t.events.length
  "Timeline(" ++ String.intercalate ", " sizes ++ ")"

end Registry

end NodeHistory

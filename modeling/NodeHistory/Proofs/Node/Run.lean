import Mathlib.Data.List.Nodup
import NodeHistory.Node.Registry
import NodeHistory.Proofs.Timeline.Clocks

/-!
Runs of the registry. A call delivers a segment by the name of its node or by its directory, or
records a sighting of a name, and a run is a list of calls. What a call leaves in the registry is
stated here once: a delivery by name changes one entry, and a delivery by directory gathers the
entries that belong to the directory into one.
-/

namespace NodeHistory.Registry

theorem mem_of_mem_putIn {node : String} {t : Timeline} {entries : List (String × Timeline)}
    {entry : String × Timeline} (h : entry ∈ putIn node t entries) :
    entry = (node, t) ∨ entry ∈ entries := by
  induction entries with
  | nil => exact Or.inl (List.mem_singleton.mp h)
  | cons head rest ih =>
      unfold putIn at h
      split at h
      · rcases List.mem_cons.mp h with hnew | hold
        · exact Or.inl hnew
        · exact Or.inr (List.mem_cons_of_mem _ hold)
      · rcases List.mem_cons.mp h with hhead | hrest
        · exact Or.inr (hhead ▸ List.mem_cons_self)
        · rcases ih hrest with hnew | hold
          · exact Or.inl hnew
          · exact Or.inr (List.mem_cons_of_mem _ hold)

theorem lookup_cons_ite {α : Type} (other key : String) (value : α)
    (rest : List (String × α)) :
    ((key, value) :: rest).lookup other =
      if other = key then some value else rest.lookup other := by
  by_cases hsame : other = key
  · simp [hsame]
  · have hdiffers : (other == key) = false := by simpa using hsame
    rw [List.lookup_cons, hdiffers, if_neg hsame]

theorem lookup_putIn (node other : String) (t : Timeline) (entries : List (String × Timeline)) :
    (putIn node t entries).lookup other =
      if other = node then some t else entries.lookup other := by
  induction entries with
  | nil => exact lookup_cons_ite other node t []
  | cons head rest ih =>
      obtain ⟨key, stored⟩ := head
      unfold putIn
      split
      · rename_i hhere
        subst hhere
        simp only [lookup_cons_ite]
        split <;> rfl
      · rename_i hhere
        simp only [lookup_cons_ite, ih]
        by_cases hkey : other = key
        · have hnode : ¬ other = node := fun h => hhere (hkey ▸ h)
          rw [if_pos hkey, if_neg hnode, if_pos hkey]
        · rw [if_neg hkey, if_neg hkey]

@[simp] theorem get?_put (r : Registry) (node other : String) (t : Timeline) :
    (r.put node t).get? other = if other = node then some t else r.get? other :=
  lookup_putIn node other t r.nodes

theorem mem_nodes_of_get? {r : Registry} {node : String} {t : Timeline}
    (h : r.get? node = some t) : (node, t) ∈ r.nodes := by
  obtain ⟨before, after, hsplit, -⟩ := List.lookup_eq_some_iff.mp h
  rw [hsplit]
  exact List.mem_append_right _ List.mem_cons_self

/-- The authoritative times of every node never go back. -/
def Ordered (r : Registry) : Prop := ∀ entry ∈ r.nodes, entry.2.Ordered

instance (r : Registry) : Decidable r.Ordered :=
  inferInstanceAs (Decidable (∀ entry ∈ r.nodes, entry.2.Ordered))

theorem Ordered.get? {r : Registry} (hr : r.Ordered) {node : String} {t : Timeline}
    (h : r.get? node = some t) : t.Ordered :=
  hr _ (mem_nodes_of_get? h)

theorem Ordered.put {r : Registry} (hr : r.Ordered) (node : String) {t : Timeline}
    (ht : t.Ordered) : (r.put node t).Ordered := by
  intro entry hentry
  rcases mem_of_mem_putIn hentry with rfl | hold
  · exact ht
  · exact hr entry hold

/-- A registry that keeps a book of names or none, and has stored nothing yet. -/
def fresh (book? : Option NameBook) : Registry := { book? }

inductive Call where
  | byName (segment : Timeline)
  | byDirectory (path : String) (segment : Timeline)
  | sighting (identity : Identity) (sighting : Sighting)

namespace Call

/-- The segment that a call delivers. -/
def segment? : Call → Option Timeline
  | byName segment | byDirectory _ segment => some segment
  | sighting .. => none

def apply (r : Registry) : Call → Registry
  | byName segment => (r.mergeByName segment).2.1
  | byDirectory path segment => (r.mergeByDirectory path segment).2.1
  | sighting identity s => (r.withSighting identity s).getD r

end Call

def run (r : Registry) (calls : List Call) : Registry := calls.foldl Call.apply r

theorem run_append (r : Registry) (first second : List Call) :
    r.run (first ++ second) = (r.run first).run second :=
  List.foldl_append

/-! ### What a delivery by directory gathers -/

/-- The entries that belong to the directory, merged into the segment one after another. -/
def gathered (directory : String) : List (String × Timeline) → Timeline → Timeline
  | [], whole => whole
  | entry :: entries, whole =>
    gathered directory entries (if belongs directory entry then entry.2.merge whole else whole)

/-- The merges that gathering makes: each entry's timeline with the whole so far. -/
def gatherings (directory : String) :
    List (String × Timeline) → Timeline → List (Timeline × Timeline)
  | [], _ => []
  | entry :: entries, whole =>
    if belongs directory entry then
      (entry.2, whole) :: gatherings directory entries (entry.2.merge whole)
    else gatherings directory entries whole

/-- The entry belongs to the directory and is stored under another name, which it loses. -/
def moves (directory : String) (entry : String × Timeline) : Bool :=
  belongs directory entry && entry.1 ≠ directory

private theorem foldl_gather (path directory : String) (entries : List (String × Timeline))
    (r : Registry) (whole : Timeline) (told : List Notice) :
    (entries.foldl (gather path directory) (r, whole, told)).1.nodes =
        r.nodes.filter (fun e => !entries.any fun x => moves directory x && x.1 = e.1) ∧
      (entries.foldl (gather path directory) (r, whole, told)).1.book? = r.book? ∧
      (entries.foldl (gather path directory) (r, whole, told)).2.1 =
        gathered directory entries whole := by
  induction entries generalizing r whole told with
  | nil => exact ⟨(List.filter_eq_self.mpr fun _ _ => rfl).symm, rfl, rfl⟩
  | cons entry entries ih =>
      rw [List.foldl_cons]
      by_cases hbelongs : belongs directory entry = true
      · simp only [gather, hbelongs, if_true, gathered]
        obtain ⟨hnodes, hbook, hwhole⟩ := ih _ _ _
        refine ⟨hnodes.trans ?_, hbook.trans ?_, hwhole⟩
        · by_cases hplace : entry.1 = directory
          · simp [hplace, moves]
          · have hmoves : moves directory entry = true := by simp [moves, hbelongs, hplace]
            simp only [hplace, if_false, erase, List.filter_filter]
            apply List.filter_congr
            intro e _
            simp [hmoves, eq_comm, Bool.and_comm]
        · split <;> rfl
      · simp only [gather, hbelongs, gathered]
        obtain ⟨hnodes, hbook, hwhole⟩ := ih r whole told
        refine ⟨hnodes.trans ?_, hbook, hwhole⟩
        simp [moves, hbelongs]

/-- A delivery by directory takes away the entries that move and stores the whole under the
directory's name. -/
theorem nodes_mergeByDirectory (r : Registry) (path : String) (segment : Timeline) :
    (r.mergeByDirectory path segment).2.1.nodes =
      putIn (Text.Path.parentName path)
        (gathered (Text.Path.parentName path) r.nodes segment)
        (r.nodes.filter fun e => !moves (Text.Path.parentName path) e) := by
  obtain ⟨hnodes, -, hwhole⟩ :=
    foldl_gather path (Text.Path.parentName path) r.nodes r segment []
  have hkept : r.nodes.filter (fun e => !r.nodes.any fun x =>
        moves (Text.Path.parentName path) x && x.1 = e.1) =
      r.nodes.filter fun e => !moves (Text.Path.parentName path) e := by
    apply List.filter_congr
    intro e he
    congr 1
    rw [Bool.eq_iff_iff, List.any_eq_true]
    constructor
    · rintro ⟨x, hx, hmoves⟩
      obtain ⟨hmoves, hname⟩ : moves (Text.Path.parentName path) x = true ∧ x.1 = e.1 := by
        simpa using hmoves
      rwa [List.inj_on_of_nodup_map r.distinct hx he hname] at hmoves
    · intro hmoves
      exact ⟨e, he, by simp [hmoves]⟩
  unfold mergeByDirectory
  simp only [put]
  rw [hnodes, hwhole, hkept]

theorem book?_mergeByDirectory (r : Registry) (path : String) (segment : Timeline) :
    (r.mergeByDirectory path segment).2.1.book? = r.book? := by
  obtain ⟨-, hbook, -⟩ := foldl_gather path (Text.Path.parentName path) r.nodes r segment []
  exact hbook

theorem get?_mergeByDirectory (r : Registry) (path : String) (segment : Timeline) :
    (r.mergeByDirectory path segment).2.1.get? (Text.Path.parentName path) =
      some (gathered (Text.Path.parentName path) r.nodes segment) := by
  unfold get?
  rw [nodes_mergeByDirectory, lookup_putIn, if_pos rfl]

/-- A delivery by name stores the segment, merged with what its node has. -/
theorem mergeByName_of_last? {r : Registry} {segment : Timeline} {e : Event}
    (hlast : segment.last? = some e) :
    (r.mergeByName segment).2.1 =
      r.put (e.provenance.nodeName segment.finish? r.book?)
        (((r.get? (e.provenance.nodeName segment.finish? r.book?)).map
          (·.merge segment)).getD segment) := by
  unfold mergeByName
  rw [hlast]
  dsimp only
  cases r.get? (e.provenance.nodeName segment.finish? r.book?) with
  | none => rfl
  | some existing => rfl

/-- The node of a segment is named by its last event and the book of names alone. -/
theorem node?_mergeByName (r : Registry) (segment : Timeline) :
    (r.mergeByName segment).1 =
      segment.last?.map fun e => e.provenance.nodeName segment.finish? r.book? := by
  unfold mergeByName
  cases segment.last? with
  | none => rfl
  | some e =>
      dsimp only
      cases r.get? (e.provenance.nodeName segment.finish? r.book?) with
      | none => rfl
      | some existing => rfl

theorem mergeByName_of_last?_eq_none {r : Registry} {segment : Timeline}
    (hlast : segment.last? = none) : (r.mergeByName segment).2.1 = r := by
  unfold mergeByName
  rw [hlast]

end NodeHistory.Registry

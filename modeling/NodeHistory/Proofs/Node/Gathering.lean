import Mathlib.Data.List.Induction
import NodeHistory.Proofs.Node.Run
import NodeHistory.Proofs.Timeline.Hull

/-!
What a delivery by directory leaves in the registry, whatever was stored before. The filled entries
that match the directory, by their key or by the file of their first event, become one entry under
the directory's name; every other entry stays as it is and where it is. An entry may match in both
ways, several may match at once, and an empty one matches in no way.
-/

namespace NodeHistory.Registry

open Timeline

/-- The entry is filled, and its key or the directory of its first event's file is the given
name. -/
def Matches (directory : String) (entry : String × Timeline) : Prop :=
  ∃ first ∈ entry.2.events.head?,
    entry.1 = directory ∨ Text.Path.parentName first.provenance.filePath = directory

instance (directory : String) (entry : String × Timeline) : Decidable (Matches directory entry) :=
  inferInstanceAs (Decidable (∃ first ∈ entry.2.events.head?, _))

theorem belongs_eq_decide (directory : String) (entry : String × Timeline) :
    belongs directory entry = decide (Matches directory entry) := by
  obtain ⟨key, events, rule⟩ := entry
  cases events with
  | nil => simp [belongs, Matches, Timeline.isEmpty]
  | cons first rest => simp [belongs, Matches, startsIn, Timeline.isEmpty]

/-- The entries that a delivery leaves where they are: those that match in no way, and the one under
the directory's name. -/
theorem not_moves_eq_decide (directory : String) (entry : String × Timeline) :
    (!moves directory entry) =
      decide (entry.1 = directory ∨ ¬ Matches directory entry) := by
  unfold moves
  rw [belongs_eq_decide]
  by_cases hname : entry.1 = directory
  · simp [hname]
  · simp [hname]

/-- The timelines of the entries that match a directory, in registry order. -/
def matching (r : Registry) (directory : String) : List Timeline :=
  (r.nodes.filter (Matches directory ·)).map (·.2)

/-- The stored timelines merged into a segment one after another, each as the first of the two. -/
def mergedInto (segment : Timeline) (stored : List Timeline) : Timeline :=
  stored.foldl (fun whole t => t.merge whole) segment

theorem mergedInto_snoc (segment : Timeline) (stored : List Timeline) (t : Timeline) :
    mergedInto segment (stored ++ [t]) = t.merge (mergedInto segment stored) :=
  List.foldl_append

theorem start?_mergedInto (segment : Timeline) (stored : List Timeline) :
    (mergedInto segment stored).start? = earliestStart (segment :: stored) := by
  induction stored using List.reverseRecOn with
  | nil =>
      rw [← List.nil_append [segment], earliestStart_snoc]
      exact Option.merge_none_left.symm
  | append_singleton stored t ih =>
      rw [mergedInto_snoc, start?_merge, ih, ← List.cons_append, earliestStart_snoc, merge_min_comm]

theorem finish?_mergedInto (segment : Timeline) (stored : List Timeline) :
    (mergedInto segment stored).finish? = latestFinish (segment :: stored) := by
  induction stored using List.reverseRecOn with
  | nil =>
      rw [← List.nil_append [segment], latestFinish_snoc]
      exact Option.merge_none_left.symm
  | append_singleton stored t ih =>
      rw [mergedInto_snoc, finish?_merge, ih, ← List.cons_append, latestFinish_snoc, merge_max_comm]

theorem gathered_eq_mergedInto (directory : String) (entries : List (String × Timeline))
    (segment : Timeline) :
    gathered directory entries segment =
      mergedInto segment ((entries.filter (Matches directory ·)).map (·.2)) := by
  induction entries generalizing segment with
  | nil => rfl
  | cons entry entries ih =>
      unfold gathered
      rw [belongs_eq_decide, ih, List.filter_cons]
      by_cases hmatches : Matches directory entry
      · simp [hmatches, mergedInto]
      · simp [hmatches]

/-- A replaced or added entry changes no entry of another name. -/
theorem filter_putIn (node : String) (t : Timeline) (entries : List (String × Timeline)) :
    (putIn node t entries).filter (·.1 ≠ node) = entries.filter (·.1 ≠ node) := by
  induction entries with
  | nil => simp [putIn]
  | cons entry entries ih =>
      unfold putIn
      split
      · rename_i hhere
        simp [hhere]
      · rw [List.filter_cons, List.filter_cons, ih]

/-- What it means that a segment gathers what matches a directory. -/
structure Gathers (r : Registry) (directory : String) (segment : Timeline)
    (after : Registry) : Prop where
  /-- The matching entries are merged into the segment, and the whole bears the directory's name. -/
  stored : after.get? directory = some (mergedInto segment (r.matching directory))
  /-- Matching entries leave the names under which they were stored. -/
  left : ∀ entry ∈ r.nodes, Matches directory entry → entry.1 ≠ directory → entry.1 ∉ after.names
  /-- No other entry matches any more. -/
  alone : ∀ entry ∈ after.nodes, Matches directory entry → entry.1 = directory
  /-- All entries that match in no way stay, in their order. -/
  others : after.nodes.filter (·.1 ≠ directory) =
    r.nodes.filter fun entry => entry.1 ≠ directory ∧ ¬ Matches directory entry
  /-- A name that was there keeps its place among the names that stay. -/
  place : directory ∈ r.names → after.names =
    (r.nodes.filter fun entry => entry.1 = directory ∨ ¬ Matches directory entry).map (·.1)
  /-- A new name comes last. -/
  last : directory ∉ r.names → after.names =
    (r.nodes.filter fun entry => ¬ Matches directory entry).map (·.1) ++ [directory]
  /-- The span under the directory's name is the hull of what went into it. -/
  start : (after.get? directory).bind start? = earliestStart (segment :: r.matching directory)
  finish : (after.get? directory).bind finish? = latestFinish (segment :: r.matching directory)
  book : after.book? = r.book?

section

variable {r after : Registry} {directory : String} {whole segment : Timeline}

theorem names_of_nodes_eq
    (hnodes : after.nodes = putIn directory whole
      (r.nodes.filter fun e => e.1 = directory ∨ ¬ Matches directory e)) :
    after.names =
      if directory ∈ r.names then
        (r.nodes.filter fun e => e.1 = directory ∨ ¬ Matches directory e).map (·.1)
      else
        (r.nodes.filter fun e => e.1 = directory ∨ ¬ Matches directory e).map (·.1) ++
          [directory] := by
  have hkept : directory ∈
      (r.nodes.filter fun e => e.1 = directory ∨ ¬ Matches directory e).map (·.1) ↔
        directory ∈ r.names := by
    constructor
    · exact fun h => (List.filter_sublist.map _).subset h
    · intro h
      obtain ⟨entry, hentry, rfl⟩ := List.mem_map.mp h
      exact List.mem_map_of_mem (List.mem_filter.mpr ⟨hentry, by simp⟩)
  unfold names
  rw [hnodes, names_putIn]
  exact if_congr hkept rfl rfl

theorem gathers_of_nodes_eq
    (hnodes : after.nodes = putIn directory (gathered directory r.nodes segment)
      (r.nodes.filter fun e => e.1 = directory ∨ ¬ Matches directory e))
    (hbook : after.book? = r.book?) : Gathers r directory segment after := by
  have hstored : after.get? directory = some (mergedInto segment (r.matching directory)) := by
    unfold get?
    rw [hnodes, lookup_putIn, if_pos rfl, gathered_eq_mergedInto]
    rfl
  have hnames := names_of_nodes_eq hnodes
  -- of the entries that are left, only the one under the directory's name may match it
  have halone : ∀ entry ∈ after.nodes, Matches directory entry → entry.1 = directory := by
    intro entry hentry hmatches
    rw [hnodes] at hentry
    rcases mem_of_mem_putIn hentry with rfl | hkept
    · rfl
    · have hstays := (List.mem_filter.mp hkept).2
      simpa [hmatches] using hstays
  constructor
  · exact hstored
  · intro entry hentry hmatches hname hleft
    obtain ⟨other, hother, hsame⟩ := List.mem_map.mp hleft
    rw [hnodes] at hother
    rcases mem_of_mem_putIn hother with rfl | hkept
    · exact hname hsame.symm
    · obtain ⟨hmember, hstays⟩ := List.mem_filter.mp hkept
      obtain rfl := List.inj_on_of_nodup_map r.distinct hmember hentry hsame
      simp [hmatches, hname] at hstays
  · exact halone
  · rw [hnodes, filter_putIn, List.filter_filter]
    apply List.filter_congr
    intro entry _
    by_cases hname : entry.1 = directory
    · simp [hname]
    · simp [hname]
  · intro hthere
    rw [hnames, if_pos hthere]
  · intro hnew
    rw [hnames, if_neg hnew]
    congr 2
    apply List.filter_congr
    intro entry hentry
    have hname : entry.1 ≠ directory := fun h => hnew (h ▸ List.mem_map_of_mem hentry)
    simp [hname]
  · rw [hstored]
    exact start?_mergedInto segment (r.matching directory)
  · rw [hstored]
    exact finish?_mergedInto segment (r.matching directory)
  · exact hbook

end

/-- A delivery by directory answers with the directory's name and gathers exactly what matches it,
in every registry. -/
theorem mergeByDirectory_gathers (r : Registry) (path : String) (segment : Timeline) :
    (r.mergeByDirectory path segment).1 = Text.Path.parentName path ∧
      Gathers r (Text.Path.parentName path) segment (r.mergeByDirectory path segment).2.1 := by
  refine ⟨rfl, gathers_of_nodes_eq ?_ (book?_mergeByDirectory r path segment)⟩
  rw [nodes_mergeByDirectory]
  simp only [not_moves_eq_decide]

/-- One entry matches by its key, one by the file of its first event, and one in no way. -/
example :
    let named (name path : String) : Call :=
      .byName { events := [{ provenance := { filePath := path, names := [name] } }] }
    let r := (fresh none).run [named "n" "/other/error.log", named "db-2" "/logs/m/error.log",
      named "db-1" "/logs/n/error.log", .byDirectory "/logs/n/error.log.1" {}]
    r.nodes.map (fun entry => (entry.1, entry.2.events.length)) = [("n", 2), ("db-2", 1)] := by
  decide +kernel

end NodeHistory.Registry

import NodeHistory.Proofs.Node.Run
import NodeHistory.Proofs.Timeline.Hull
import NodeHistory.Proofs.Timeline.Split

/-!
Delivering a segment again. In a run that delivers by name only, or by directory only and each
event under the directory it comes from, a delivery merges its segment into one node and touches
no other. The span of a stored timeline only grows, so it reaches over every segment that the node
was given, and a segment that is reached over brings in nothing. No order of events is assumed.
-/

namespace NodeHistory

open Time

namespace Timeline

/-- The span of the timeline reaches over the other one's. -/
structure ReachesOver (t segment : Timeline) : Prop where
  start_le : rank t.start? ≤ rank segment.start?
  le_finish : rank segment.finish? ≤ rank t.finish?

theorem ReachesOver.trans {t u v : Timeline} (first : t.ReachesOver u)
    (second : u.ReachesOver v) : t.ReachesOver v :=
  ⟨first.start_le.trans second.start_le, second.le_finish.trans first.le_finish⟩

private theorem rank_merge_min_le {a : Option Instant} (b : Option Instant)
    (ha : a.isSome = true) : rank (Option.merge min a b) ≤ rank a := by
  cases b with
  | none => rw [Option.merge_none_right]
  | some t =>
      rw [rank_merge_min ha rfl]
      exact min_le_left _ _

theorem reachesOver_merge_left {a : Timeline} (b : Timeline) (ha : a.start?.isSome = true) :
    (a.merge b).ReachesOver a := by
  constructor
  · rw [start?_merge]
    exact rank_merge_min_le b.start? ha
  · rw [finish?_merge, rank_merge_max]
    exact le_max_left _ _

theorem reachesOver_merge_right (a : Timeline) {b : Timeline} (hb : b.start?.isSome = true) :
    (a.merge b).ReachesOver b := by
  constructor
  · rw [start?_merge, merge_min_comm]
    exact rank_merge_min_le a.start? hb
  · rw [finish?_merge, rank_merge_max]
    exact le_max_right _ _

theorem ReachesOver.isSome_start? {t segment : Timeline} (h : t.ReachesOver segment)
    (hsegment : segment.start?.isSome = true) : t.start?.isSome = true := by
  rw [Timeline.isSome_start?] at hsegment ⊢
  obtain ⟨finish, hfinish⟩ := Option.isSome_iff_exists.mp hsegment
  have hreach := h.le_finish
  rw [hfinish] at hreach
  exact isSome_of_rank_lt ((WithBot.bot_lt_coe finish).trans_le hreach)

/-- A timeline takes in nothing of a segment that it reaches over. -/
theorem ReachesOver.merge_eq_self {t segment : Timeline} (h : t.ReachesOver segment)
    (hsegment : segment.start?.isSome = true) : t.merge segment = t := by
  have hset := h.isSome_start? hsegment
  have hleads : precedes segment.start? t.start? = false := not_precedes_iff.mpr h.start_le
  have hmerge := merge_reconciles (isEmpty_of_start?_isSome hset)
    (isEmpty_of_start?_isSome hsegment)
  simp only [leading, trailing, hleads, Bool.false_eq_true, if_false] at hmerge
  generalize t.merge segment = result at hmerge
  cases hmerge with
  | superseded same outlasted => exact absurd outlasted (not_lt_of_ge h.le_finish)
  | kept same lasts => rfl
  | contained apart set lasts => rfl
  | cut apart outlasted meets => exact absurd outlasted (not_lt_of_ge h.le_finish)
  | appended apart outlasted follows =>
      have hlast := outlasted ((Timeline.isSome_start? t).symm.trans hset)
      exact absurd hlast (not_lt_of_ge h.le_finish)

end Timeline

namespace Registry

open Timeline

theorem ext {r s : Registry} (hnodes : r.nodes = s.nodes) (hbook : r.book? = s.book?) : r = s := by
  cases r
  cases s
  subst hnodes
  subst hbook
  rfl

theorem putIn_of_lookup {node : String} {t : Timeline} {entries : List (String × Timeline)}
    (h : entries.lookup node = some t) : putIn node t entries = entries := by
  induction entries with
  | nil => cases h
  | cons head rest ih =>
      obtain ⟨key, stored⟩ := head
      rw [lookup_cons_ite] at h
      unfold putIn
      split
      · rename_i hhere
        rw [if_pos hhere.symm] at h
        rw [← hhere, ← Option.some.inj h]
      · rename_i hhere
        rw [if_neg (fun hsame => hhere hsame.symm)] at h
        rw [ih h]

theorem put_of_get? {r : Registry} {node : String} {t : Timeline} (h : r.get? node = some t) :
    r.put node t = r :=
  ext (putIn_of_lookup h) rfl

/-! ### Storing a segment under one node -/

/-- Merges a segment into one node. -/
def place (r : Registry) (node : String) (segment : Timeline) : Registry :=
  r.put node (((r.get? node).map (·.merge segment)).getD segment)

/-- What the node has reaches over the segment. -/
def Holds (r : Registry) (node : String) (segment : Timeline) : Prop :=
  ∃ stored, r.get? node = some stored ∧ stored.ReachesOver segment

variable {r : Registry} {node : String} {segment : Timeline}

theorem holds_place (hsegment : segment.start?.isSome = true) :
    (r.place node segment).Holds node segment := by
  refine ⟨_, (get?_put r node node _).trans (if_pos rfl), ?_⟩
  cases r.get? node with
  | none => exact ⟨le_rfl, le_rfl⟩
  | some stored => exact reachesOver_merge_right stored hsegment

theorem Holds.place (h : r.Holds node segment) (hsegment : segment.start?.isSome = true)
    (other : String) (t : Timeline) : (r.place other t).Holds node segment := by
  obtain ⟨stored, hget, hreach⟩ := h
  by_cases hsame : node = other
  · subst hsame
    refine ⟨stored.merge t, ?_, ?_⟩
    · simp [Registry.place, hget]
    · exact (reachesOver_merge_left t (hreach.isSome_start? hsegment)).trans hreach
  · exact ⟨stored, by simp [Registry.place, hsame, hget], hreach⟩

theorem Holds.place_eq_self (h : r.Holds node segment)
    (hsegment : segment.start?.isSome = true) : r.place node segment = r := by
  obtain ⟨stored, hget, hreach⟩ := h
  unfold Registry.place
  rw [hget, Option.map_some, Option.getD_some, hreach.merge_eq_self hsegment]
  exact put_of_get? hget

/-! ### Deliveries by directory -/

/-- Every stored event comes from the directory that its node is named after. -/
def AtHome (r : Registry) : Prop :=
  ∀ entry ∈ r.nodes, ∀ e ∈ entry.2.events,
    Text.Path.parentName e.provenance.filePath = entry.1

private theorem name_eq_of_belongs {directory : String} {entry : String × Timeline}
    (hhome : ∀ e ∈ entry.2.events, Text.Path.parentName e.provenance.filePath = entry.1)
    (h : belongs directory entry = true) : entry.1 = directory := by
  obtain ⟨-, hname | hstarts⟩ : entry.2.isEmpty = false ∧
      (entry.1 = directory ∨ startsIn directory entry.2 = true) := by
    simpa [belongs] using h
  · exact hname
  · unfold startsIn at hstarts
    split at hstarts
    · cases hstarts
    · rename_i e hhead
      rw [← hhome e (List.mem_of_head? hhead)]
      exact of_decide_eq_true hstarts

theorem gathered_of_none_belongs {directory : String} {entries : List (String × Timeline)}
    (whole : Timeline) (h : ∀ entry ∈ entries, belongs directory entry = false) :
    gathered directory entries whole = whole := by
  induction entries with
  | nil => rfl
  | cons entry entries ih =>
      unfold gathered
      rw [h entry List.mem_cons_self]
      exact ih fun e he => h e (List.mem_cons_of_mem _ he)

/-- Where only the directory's own entry may belong to it, gathering is one merge. -/
theorem gathered_eq_merge {directory : String} {entries : List (String × Timeline)}
    (whole : Timeline) (hdistinct : (entries.map (·.1)).Nodup)
    (howner : ∀ entry ∈ entries, belongs directory entry = true → entry.1 = directory) :
    gathered directory entries whole =
      ((entries.lookup directory).map (·.merge whole)).getD whole := by
  induction entries with
  | nil => rfl
  | cons entry entries ih =>
      obtain ⟨key, stored⟩ := entry
      obtain ⟨hfresh, hdistinct⟩ := List.nodup_cons.mp hdistinct
      have hrest : ∀ e ∈ entries, belongs directory e = true → e.1 = directory :=
        fun e he => howner e (List.mem_cons_of_mem _ he)
      rw [lookup_cons_ite]
      by_cases hhere : directory = key
      · subst hhere
        have hnone : ∀ e ∈ entries, belongs directory e = false := by
          intro e he
          rw [← Bool.not_eq_true]
          intro hbelongs
          have hname : e.1 ∈ entries.map (·.1) := List.mem_map_of_mem he
          rw [hrest e he hbelongs] at hname
          exact hfresh hname
        unfold gathered
        rw [if_pos rfl, Option.map_some, Option.getD_some]
        cases hempty : stored.isEmpty with
        | true =>
            have houtside : belongs directory (directory, stored) = false := by
              simp [belongs, hempty]
            rw [houtside, merge_of_isEmpty_left whole hempty]
            exact gathered_of_none_belongs whole hnone
        | false =>
            have hinside : belongs directory (directory, stored) = true := by
              simp [belongs, hempty]
            rw [if_pos hinside]
            exact gathered_of_none_belongs _ hnone
      · have houtside : belongs directory (key, stored) = false := by
          rw [← Bool.not_eq_true]
          intro hbelongs
          exact hhere (howner (key, stored) List.mem_cons_self hbelongs).symm
        unfold gathered
        rw [houtside, if_neg hhere]
        exact ih hdistinct hrest

theorem AtHome.mergeByDirectory_eq (h : r.AtHome) (path : String) (segment : Timeline) :
    (r.mergeByDirectory path segment).2.1 = r.place (Text.Path.parentName path) segment := by
  have howner : ∀ entry ∈ r.nodes, belongs (Text.Path.parentName path) entry = true →
      entry.1 = Text.Path.parentName path :=
    fun entry hentry => name_eq_of_belongs (h entry hentry)
  have hstay : r.nodes.filter (fun e => !moves (Text.Path.parentName path) e) = r.nodes := by
    apply List.filter_eq_self.mpr
    intro entry hentry
    by_cases hbelongs : belongs (Text.Path.parentName path) entry = true
    · simp [moves, howner entry hentry hbelongs]
    · simp [moves, hbelongs]
  apply ext
  · rw [nodes_mergeByDirectory, hstay, gathered_eq_merge segment r.distinct howner]
    rfl
  · exact book?_mergeByDirectory r path segment

theorem AtHome.place (h : r.AtHome)
    (hsegment : ∀ e ∈ segment.events, Text.Path.parentName e.provenance.filePath = node) :
    (r.place node segment).AtHome := by
  intro entry hentry
  rcases mem_of_mem_putIn hentry with rfl | hold
  · intro e he
    cases hget : r.get? node with
    | none =>
        simp only [hget] at he
        exact hsegment e he
    | some stored =>
        simp only [hget] at he
        obtain ⟨source, hsource, hstems⟩ := exists_stemsFrom_of_mem_merge he
        rw [hstems.filePath_eq]
        rcases hsource with hstored | hnew
        · exact h (node, stored) (mem_nodes_of_get? hget) source hstored
        · exact hsegment source hnew
  · exact h entry hold

/-! ### Runs that deliver in one way -/

/-- The node that a call answers with. -/
def Call.node? (r : Registry) : Call → Option String
  | .byName segment => (r.mergeByName segment).1
  | .byDirectory path segment => some (r.mergeByDirectory path segment).1
  | .sighting .. => none

def Call.IsByName : Call → Prop
  | .byName _ => True
  | _ => False

/-- The call delivers by directory, and each event under the directory it comes from. -/
def Call.IsFromHome : Call → Prop
  | .byDirectory path segment => ∀ e ∈ segment.events,
      Text.Path.parentName e.provenance.filePath = Text.Path.parentName path
  | _ => False

def DeliversOneWay (calls : List Call) : Prop :=
  (∀ call ∈ calls, call.IsByName) ∨ ∀ call ∈ calls, call.IsFromHome

instance : DecidablePred Call.IsByName
  | .byName _ => inferInstanceAs (Decidable True)
  | .byDirectory .. | .sighting .. => inferInstanceAs (Decidable False)

instance : DecidablePred Call.IsFromHome
  | .byDirectory path segment => inferInstanceAs (Decidable (∀ e ∈ segment.events,
      Text.Path.parentName e.provenance.filePath = Text.Path.parentName path))
  | .byName _ | .sighting .. => inferInstanceAs (Decidable False)

instance (calls : List Call) : Decidable (DeliversOneWay calls) :=
  inferInstanceAs (Decidable (_ ∨ _))

/-- What a call comes to: its segment is empty and ignored, or it is merged into the node that the
call answers with. -/
inductive Lands (r : Registry) (call : Call) : Prop where
  | ignored (hempty : ∀ segment ∈ call.segment?, segment.isEmpty = true)
      (same : call.apply r = r)
  | placed (node : String) (segment : Timeline) (hsegment : call.segment? = some segment)
      (hnode : call.node? r = some node) (happly : call.apply r = r.place node segment)

/-- Each call of the run merges its segment into one node. -/
def AllLand (r : Registry) : List Call → Prop
  | [] => True
  | call :: calls => Lands r call ∧ AllLand (call.apply r) calls

theorem Call.IsByName.lands {call : Call} (h : call.IsByName) (r : Registry) : Lands r call := by
  cases call with
  | byName segment =>
      cases hlast : segment.last? with
      | none =>
          refine .ignored ?_ (mergeByName_of_last?_eq_none hlast)
          intro t ht
          obtain rfl := Option.some.inj ht
          exact isEmpty_iff.mpr (List.getLast?_eq_none_iff.mp hlast)
      | some e =>
          have hnode : (Call.byName segment).node? r =
              some (e.provenance.nodeName segment.finish? r.book?) := by
            simp [Call.node?, node?_mergeByName, hlast]
          exact .placed _ segment rfl hnode (mergeByName_of_last? hlast)
  | byDirectory path segment => cases h
  | sighting identity s => cases h

theorem AtHome.lands {call : Call} (hr : r.AtHome) (h : call.IsFromHome) : Lands r call := by
  cases call with
  | byName segment => cases h
  | byDirectory path segment =>
      exact .placed (Text.Path.parentName path) segment rfl rfl
        (hr.mergeByDirectory_eq path segment)
  | sighting identity s => cases h

theorem AtHome.apply {call : Call} (hr : r.AtHome) (h : call.IsFromHome) :
    (call.apply r).AtHome := by
  cases call with
  | byName segment => cases h
  | byDirectory path segment =>
      rw [Call.apply, hr.mergeByDirectory_eq]
      exact hr.place h
  | sighting identity s => cases h

theorem allLand_of_byName {calls : List Call} (h : ∀ call ∈ calls, call.IsByName)
    (r : Registry) : AllLand r calls := by
  induction calls generalizing r with
  | nil => trivial
  | cons call calls ih =>
      exact ⟨(h call List.mem_cons_self).lands r,
        ih (fun c hc => h c (List.mem_cons_of_mem _ hc)) _⟩

theorem AtHome.allLand {calls : List Call} (hr : r.AtHome)
    (h : ∀ call ∈ calls, call.IsFromHome) : AllLand r calls := by
  induction calls generalizing r with
  | nil => trivial
  | cons call calls ih =>
      have hcall := h call List.mem_cons_self
      exact ⟨hr.lands hcall, ih (hr.apply hcall) fun c hc => h c (List.mem_cons_of_mem _ hc)⟩

theorem DeliversOneWay.allLand {calls : List Call} (h : DeliversOneWay calls)
    (book? : Option NameBook) : AllLand (fresh book?) calls := by
  rcases h with hname | hhome
  · exact allLand_of_byName hname _
  · have hempty : (fresh book?).AtHome := by
      intro entry hentry
      cases hentry
    exact hempty.allLand hhome

theorem allLand_append {first second : List Call} (h : AllLand r (first ++ second)) :
    AllLand r first ∧ AllLand (r.run first) second := by
  induction first generalizing r with
  | nil => exact ⟨trivial, h⟩
  | cons call calls ih =>
      obtain ⟨hfirst, hsecond⟩ := ih h.2
      exact ⟨⟨h.1, hfirst⟩, hsecond⟩

theorem Lands.book? {call : Call} (h : Lands r call) : (call.apply r).book? = r.book? := by
  cases h with
  | ignored hempty same => rw [same]
  | placed node segment hsegment hnode happly =>
      rw [happly]
      rfl

theorem Lands.holds {call : Call} (h : Lands r call) (hholds : r.Holds node segment)
    (hsegment : segment.start?.isSome = true) : (call.apply r).Holds node segment := by
  cases h with
  | ignored hempty same => rwa [same]
  | placed other t ht hnode happly =>
      rw [happly]
      exact hholds.place hsegment other t

theorem AllLand.book? {calls : List Call} (h : AllLand r calls) :
    (r.run calls).book? = r.book? := by
  induction calls generalizing r with
  | nil => rfl
  | cons call calls ih => exact (ih h.2).trans h.1.book?

theorem AllLand.holds {calls : List Call} (h : AllLand r calls)
    (hholds : r.Holds node segment) (hsegment : segment.start?.isSome = true) :
    (r.run calls).Holds node segment := by
  induction calls generalizing r with
  | nil => exact hholds
  | cons call calls ih => exact ih h.2 (h.1.holds hholds hsegment)

/-- The node that a call answers with depends on the registry by its book of names alone. -/
theorem Call.node?_congr (call : Call) {r s : Registry} (h : r.book? = s.book?) :
    call.node? r = call.node? s := by
  cases call with
  | byName segment => simp only [Call.node?, node?_mergeByName, h]
  | byDirectory path segment => rfl
  | sighting identity sighting => rfl

theorem Lands.placed_of_clock {call : Call} (h : Lands r call)
    (hsegment : call.segment? = some segment) (hclock : segment.start?.isSome = true) :
    ∃ node, call.node? r = some node ∧ call.apply r = r.place node segment := by
  cases h with
  | ignored hempty same =>
      have hfilled := isEmpty_of_start?_isSome hclock
      rw [hempty segment hsegment] at hfilled
      cases hfilled
  | placed node t ht hnode happly =>
      obtain rfl := Option.some.inj (ht.symm.trans hsegment)
      exact ⟨node, hnode, happly⟩

/-- A segment that tells the clock may be delivered again at any later point of the run: it goes to
the same node, and the registry stays as it is. -/
theorem redelivery_changes_nothing (book? : Option NameBook) {before after : List Call}
    {again : Call} {segment : Timeline} (hway : DeliversOneWay (before ++ again :: after))
    (hsegment : again.segment? = some segment) (hclocks : segment.clocks ≠ []) :
    ∃ node, again.node? ((fresh book?).run before) = some node ∧
      again.node? ((fresh book?).run (before ++ again :: after)) = some node ∧
      again.apply ((fresh book?).run (before ++ again :: after)) =
        (fresh book?).run (before ++ again :: after) := by
  have hclock : segment.start?.isSome = true := by
    rw [start?_eq_head?]
    exact List.isSome_head?.mpr hclocks
  have hrepeated : DeliversOneWay ((before ++ again :: after) ++ [again]) := by
    rcases hway with hname | hhome
    · exact Or.inl (List.forall_mem_append.mpr ⟨hname, by simpa using hname again (by simp)⟩)
    · exact Or.inr (List.forall_mem_append.mpr ⟨hhome, by simpa using hhome again (by simp)⟩)
  obtain ⟨hall, hlast, -⟩ := allLand_append (hrepeated.allLand book?)
  obtain ⟨-, hfirst, hafter⟩ := allLand_append hall
  obtain ⟨node, hnode, happly⟩ := hfirst.placed_of_clock hsegment hclock
  obtain ⟨later, hlater, hagain⟩ := hlast.placed_of_clock hsegment hclock
  have hsame : again.node? ((fresh book?).run (before ++ again :: after)) =
      again.node? ((fresh book?).run before) := by
    apply again.node?_congr
    rw [hall.book?, (allLand_append hall).1.book?]
  obtain rfl : later = node := Option.some.inj (hlater.symm.trans (hsame.trans hnode))
  have hholds : ((fresh book?).run (before ++ again :: after)).Holds later segment := by
    have hstored : (again.apply ((fresh book?).run before)).Holds later segment := by
      rw [happly]
      exact holds_place hclock
    rw [run_append]
    exact hafter.holds hstored hclock
  exact ⟨later, hnode, hlater, hagain.trans (hholds.place_eq_self hclock)⟩

/-- A delivery of bare events with the given times, all read from one file. -/
def bareDelivery (path : String) (times : List Nat) : Call :=
  .byDirectory path ⟨times.map (Event.bare path), .samePattern⟩

/-- A segment that opens with an untimed event and goes back in time. -/
def restartSegment : Timeline :=
  { events := [{ message := "restart", provenance := { filePath := "/logs/n/error.log" } },
      .bare "/logs/n/error.log" 7, .bare "/logs/n/error.log" 3] }

def restartDelivery : Call := .byDirectory "/logs/n/error.log" restartSegment

/-- The segment is put behind an unsorted one, and both are swallowed by one that spans them. -/
def restartRun : List Call :=
  [bareDelivery "/logs/n/error.log.1" [4, 2]] ++
    restartDelivery :: [bareDelivery "/logs/n/error.log.2" [1, 9]]

theorem swallowed_segment_redelivered :
    DeliversOneWay restartRun ∧ restartDelivery.segment? = some restartSegment ∧
    restartSegment.clocks ≠ [] ∧
    ∃ node,
      restartDelivery.node? ((fresh none).run [bareDelivery "/logs/n/error.log.1" [4, 2]]) =
        some node ∧
      restartDelivery.node? ((fresh none).run restartRun) = some node ∧
      restartDelivery.apply ((fresh none).run restartRun) = (fresh none).run restartRun := by
  have hway : DeliversOneWay restartRun := by decide +kernel
  have hclocks : restartSegment.clocks ≠ [] := by decide +kernel
  exact ⟨hway, rfl, hclocks, redelivery_changes_nothing none hway rfl hclocks⟩

end Registry

end NodeHistory

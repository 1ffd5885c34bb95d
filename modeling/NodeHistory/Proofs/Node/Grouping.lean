import NodeHistory.Proofs.Node.DeliveryOrder
import NodeHistory.Proofs.Node.Redelivery

/-!
Which node gets which segment, and the span that the node ends with, in whatever order the segments
arrive. In a run that delivers in one way the book of names stays as it is, so a call's answer does
not depend on the calls before it, and a call merges its segment into the node that it answers with
and changes no other. The events stored under a node do depend on the order, but their span is the
hull of the segments that the node got.
-/

namespace NodeHistory

open Time

namespace Timeline

theorem start?_accumulated (arrived : List Timeline) :
    (accumulated arrived).start? = earliestStart arrived := by
  induction arrived using List.reverseRecOn with
  | nil => rfl
  | append_singleton arrived t ih =>
      rw [accumulated_snoc, start?_merge, ih, earliestStart_snoc]

theorem finish?_accumulated (arrived : List Timeline) :
    (accumulated arrived).finish? = latestFinish arrived := by
  induction arrived using List.reverseRecOn with
  | nil => rfl
  | append_singleton arrived t ih =>
      rw [accumulated_snoc, finish?_merge, ih, latestFinish_snoc]

end Timeline

namespace Registry

open Timeline

/-! ### What the calls of a run deliver to a node -/

/-- What a node has once segments are merged, one after another, into what it had. -/
def afterMerging (stored? : Option Timeline) (segments : List Timeline) : Option Timeline :=
  segments.foldl (fun stored? t => some ((stored?.map (·.merge t)).getD t)) stored?

theorem afterMerging_append (stored? : Option Timeline) (first second : List Timeline) :
    afterMerging stored? (first ++ second) = afterMerging (afterMerging stored? first) second :=
  List.foldl_append

theorem afterMerging_none (segments : List Timeline) :
    afterMerging none segments = if segments = [] then none else some (accumulated segments) := by
  induction segments using List.reverseRecOn with
  | nil => rfl
  | append_singleton segments t ih =>
      rw [afterMerging_append, ih]
      by_cases hnone : segments = []
      · rw [if_pos hnone, hnone, List.nil_append, accumulated_singleton]
        rfl
      · rw [if_neg hnone, accumulated_snoc]
        simp [afterMerging]

/-- The segment that a call delivers to the node, if it answers with that node. -/
def Call.segmentFor (r : Registry) (node : String) (call : Call) : List Timeline :=
  if call.node? r = some node then call.segment?.toList else []

/-- The segments that the calls of a run deliver to the node, in turn. -/
def deliveredTo (r : Registry) (node : String) : List Call → List Timeline
  | [] => []
  | call :: calls => call.segmentFor r node ++ deliveredTo (call.apply r) node calls

/-- The run delivers by name only, or by directory only and each event under the directory it comes
from, as what is stored does. -/
def OneWay (r : Registry) (calls : List Call) : Prop :=
  (∀ call ∈ calls, call.IsByName) ∨ (r.AtHome ∧ ∀ call ∈ calls, call.IsFromHome)

variable {r : Registry} {call : Call} {calls : List Call}

theorem get?_apply_of_place {target : String} {segment : Timeline}
    (hsegment : call.segment? = some segment) (hnode : call.node? r = some target)
    (happly : call.apply r = r.place target segment) (node : String) :
    (call.apply r).get? node = afterMerging (r.get? node) (call.segmentFor r node) := by
  rw [happly, Call.segmentFor, hnode, hsegment]
  by_cases hsame : node = target
  · subst hsame
    simp [place, afterMerging]
  · have hother : target ≠ node := fun h => hsame h.symm
    simp [place, afterMerging, hsame, hother]

theorem Call.IsByName.get?_apply (h : call.IsByName) (r : Registry) (node : String) :
    (call.apply r).get? node = afterMerging (r.get? node) (call.segmentFor r node) := by
  cases call with
  | byName segment =>
      cases hlast : segment.last? with
      | none =>
          have hnode : (Call.byName segment).node? r = none := by
            simp [Call.node?, node?_mergeByName, hlast]
          simp [Call.apply, Call.segmentFor, hnode, mergeByName_of_last?_eq_none hlast,
            afterMerging]
      | some e =>
          have hnode : (Call.byName segment).node? r =
              some (e.provenance.nodeName segment.finish? r.book?) := by
            simp [Call.node?, node?_mergeByName, hlast]
          exact get?_apply_of_place rfl hnode (mergeByName_of_last? hlast) node
  | byDirectory path segment => cases h
  | sighting identity s => cases h

theorem AtHome.get?_apply (hr : r.AtHome) (h : call.IsFromHome) (node : String) :
    (call.apply r).get? node = afterMerging (r.get? node) (call.segmentFor r node) := by
  cases call with
  | byName segment => cases h
  | byDirectory path segment =>
      have happly : (Call.byDirectory path segment).apply r =
          r.place (Text.Path.parentName path) segment := hr.mergeByDirectory_eq path segment
      exact get?_apply_of_place rfl rfl happly node
  | sighting identity s => cases h

namespace OneWay

theorem get?_apply (h : OneWay r (call :: calls)) (node : String) :
    (call.apply r).get? node = afterMerging (r.get? node) (call.segmentFor r node) := by
  rcases h with hname | ⟨hr, hhome⟩
  · exact (hname call List.mem_cons_self).get?_apply r node
  · exact hr.get?_apply (hhome call List.mem_cons_self) node

theorem book?_apply (h : OneWay r (call :: calls)) : (call.apply r).book? = r.book? := by
  rcases h with hname | ⟨hr, hhome⟩
  · exact ((hname call List.mem_cons_self).lands r).book?
  · exact (hr.lands (hhome call List.mem_cons_self)).book?

theorem tail (h : OneWay r (call :: calls)) : OneWay (call.apply r) calls := by
  rcases h with hname | ⟨hr, hhome⟩
  · exact Or.inl fun c hc => hname c (List.mem_cons_of_mem _ hc)
  · exact Or.inr ⟨hr.apply (hhome call List.mem_cons_self),
      fun c hc => hhome c (List.mem_cons_of_mem _ hc)⟩

/-- Each node ends with the segments merged that the run delivers to it. -/
theorem get?_run (h : OneWay r calls) (node : String) :
    (r.run calls).get? node = afterMerging (r.get? node) (deliveredTo r node calls) := by
  induction calls generalizing r with
  | nil => rfl
  | cons call calls ih =>
      change ((call.apply r).run calls).get? node = _
      rw [ih h.tail, h.get?_apply, deliveredTo, afterMerging_append]

/-- A call's answer at its turn is the one that it would have had at the start. -/
theorem deliveredTo_eq (h : OneWay r calls) (node : String) :
    deliveredTo r node calls =
      (calls.filter fun call => call.node? r = some node).filterMap Call.segment? := by
  induction calls generalizing r with
  | nil => rfl
  | cons call calls ih =>
      have hanswers : ∀ c ∈ calls, decide (c.node? (call.apply r) = some node) =
          decide (c.node? r = some node) :=
        fun c _ => by rw [c.node?_congr h.book?_apply]
      rw [deliveredTo, ih h.tail, List.filter_congr hanswers, Call.segmentFor, List.filter_cons]
      by_cases hhere : call.node? r = some node
      · rw [if_pos hhere, if_pos (decide_eq_true hhere)]
        cases hsegment : call.segment? <;> simp [hsegment]
      · simp [hhere]

end OneWay

theorem DeliversOneWay.oneWay (h : DeliversOneWay calls) (book? : Option NameBook) :
    OneWay (fresh book?) calls := by
  rcases h with hname | hhome
  · exact Or.inl hname
  · refine Or.inr ⟨?_, hhome⟩
    intro entry hentry
    cases hentry

theorem DeliversOneWay.perm {first second : List Call} (h : DeliversOneWay first)
    (hperm : first.Perm second) : DeliversOneWay second := by
  rcases h with hname | hhome
  · exact Or.inl fun call hcall => hname call (hperm.mem_iff.mpr hcall)
  · exact Or.inr fun call hcall => hhome call (hperm.mem_iff.mpr hcall)

theorem DeliversOneWay.get?_run (h : DeliversOneWay calls) (book? : Option NameBook)
    (node : String) :
    ((fresh book?).run calls).get? node =
      if deliveredTo (fresh book?) node calls = [] then none
      else some (accumulated (deliveredTo (fresh book?) node calls)) := by
  rw [(h.oneWay book?).get?_run, ← afterMerging_none]
  rfl

theorem DeliversOneWay.contains_run_iff (h : DeliversOneWay calls) (book? : Option NameBook)
    (node : String) : ((fresh book?).run calls).contains node = true ↔
      deliveredTo (fresh book?) node calls ≠ [] := by
  rw [contains, h.get?_run]
  split
  next hnone => exact iff_of_false Bool.false_ne_true (not_not.mpr hnone)
  next hsome => exact iff_of_true rfl hsome

/-- The answer of a call in the run. -/
theorem DeliversOneWay.node?_eq {before after : List Call}
    (h : DeliversOneWay (before ++ call :: after)) (book? : Option NameBook) :
    call.node? ((fresh book?).run before) = call.node? (fresh book?) :=
  call.node?_congr (allLand_append (h.allLand book?)).1.book?

/-! ### Two orders of delivery -/

/-- Two runs on an empty registry group the same segments under the same nodes, which are stored for
no other reason, and each node ends with the hull of its segments in both. -/
structure GroupAlike (book? : Option NameBook) (first second : List Call) : Prop where
  /-- A call gets the same answer wherever it stands in either run. -/
  answers : ∀ call before after before' after',
    first = before ++ call :: after → second = before' ++ call :: after' →
      call.node? ((fresh book?).run before) = call.node? ((fresh book?).run before')
  segments : ∀ node,
    (deliveredTo (fresh book?) node first).Perm (deliveredTo (fresh book?) node second)
  nodes : ∀ node,
    ((fresh book?).run first).contains node = ((fresh book?).run second).contains node
  stored : ∀ node,
    (((fresh book?).run first).contains node = true ↔
        deliveredTo (fresh book?) node first ≠ []) ∧
      (((fresh book?).run second).contains node = true ↔
        deliveredTo (fresh book?) node second ≠ [])
  starts : ∀ node t u, ((fresh book?).run first).get? node = some t →
    ((fresh book?).run second).get? node = some u →
      t.start? = u.start? ∧ t.start? = earliestStart (deliveredTo (fresh book?) node first)
  finishes : ∀ node t u, ((fresh book?).run first).get? node = some t →
    ((fresh book?).run second).get? node = some u →
      t.finish? = u.finish? ∧ t.finish? = latestFinish (deliveredTo (fresh book?) node first)

theorem eq_accumulated_of_get? {node : String} {t : Timeline} {book? : Option NameBook}
    (h : DeliversOneWay calls) (hget : ((fresh book?).run calls).get? node = some t) :
    t = accumulated (deliveredTo (fresh book?) node calls) := by
  rw [h.get?_run] at hget
  split at hget
  · cases hget
  · exact (Option.some.inj hget).symm

/-- The order in which segments are delivered makes no difference to the nodes, to which node a
segment joins, and to the span of a node. -/
theorem delivery_order_groups_alike (book? : Option NameBook) {first second : List Call}
    (hway : DeliversOneWay first) (hperm : first.Perm second) :
    GroupAlike book? first second := by
  have hsecond : DeliversOneWay second := hway.perm hperm
  -- no answer depends on the calls before, so a node gets the same segments in either order
  have hsegments (node : String) :
      (deliveredTo (fresh book?) node first).Perm (deliveredTo (fresh book?) node second) := by
    rw [(hway.oneWay book?).deliveredTo_eq, (hsecond.oneWay book?).deliveredTo_eq]
    exact (hperm.filter _).filterMap _
  constructor
  · rintro call before after before' after' rfl rfl
    rw [hway.node?_eq, hsecond.node?_eq]
  · exact hsegments
  · intro node
    have hnone : deliveredTo (fresh book?) node first = [] ↔
        deliveredTo (fresh book?) node second = [] := by
      rw [← List.length_eq_zero_iff, ← List.length_eq_zero_iff, (hsegments node).length_eq]
    rw [Bool.eq_iff_iff, hway.contains_run_iff, hsecond.contains_run_iff]
    exact not_congr hnone
  · intro node
    exact ⟨hway.contains_run_iff book? node, hsecond.contains_run_iff book? node⟩
  · intro node t u ht hu
    obtain rfl := eq_accumulated_of_get? hway ht
    obtain rfl := eq_accumulated_of_get? hsecond hu
    rw [start?_accumulated, start?_accumulated]
    exact ⟨earliestStart_perm (hsegments node), rfl⟩
  · intro node t u ht hu
    obtain rfl := eq_accumulated_of_get? hway ht
    obtain rfl := eq_accumulated_of_get? hsecond hu
    rw [finish?_accumulated, finish?_accumulated]
    exact ⟨latestFinish_perm (hsegments node), rfl⟩

/-- Two nodes, of which one is stored empty at first and then gets three segments, one of them
unsorted. -/
def fiveDeliveries : List Call :=
  [.byDirectory "/logs/n/error.log.3" {}, bareDelivery "/logs/m/error.log" [7], restartDelivery,
    bareDelivery "/logs/n/error.log.2" [4, 5], bareDelivery "/logs/n/error.log.1" [1, 9]]

theorem reversed_deliveries_group_alike :
    DeliversOneWay fiveDeliveries ∧ fiveDeliveries.Perm fiveDeliveries.reverse ∧
      GroupAlike none fiveDeliveries fiveDeliveries.reverse := by
  have hway : DeliversOneWay fiveDeliveries := by decide +kernel
  have hperm : fiveDeliveries.Perm fiveDeliveries.reverse := (List.reverse_perm _).symm
  exact ⟨hway, hperm, delivery_order_groups_alike none hway hperm⟩

end Registry

end NodeHistory

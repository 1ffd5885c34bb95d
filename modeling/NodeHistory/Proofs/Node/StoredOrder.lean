import NodeHistory.Proofs.Node.Run
import NodeHistory.Proofs.Timeline.ClockOrder

/-!
The order of stored timelines over whole runs. A call may make several merges, one into the other,
and stores the last. The registry stays ordered exactly as long as every call merges in order what
it stores. No merge out of order is made where none misplaces a clock, and where no call makes more
than one merge the two are the same.
-/

namespace NodeHistory.Registry

open Timeline

/-- The merges that a call makes, in turn. -/
def Call.merges (r : Registry) : Call → List (Timeline × Timeline)
  | .byName segment =>
    match segment.last? with
    | none => []
    | some e =>
      ((r.get? (e.provenance.nodeName segment.finish? r.book?)).map (·, segment)).toList
  | .byDirectory path segment => gatherings (Text.Path.parentName path) r.nodes segment
  | .sighting .. => []

/-- The merges that a run makes, in turn. -/
def merges (r : Registry) : List Call → List (Timeline × Timeline)
  | [] => []
  | call :: calls => call.merges r ++ merges (call.apply r) calls

/-- Each call of the run merges in order what it stores, which is the last of its merges. -/
def StoresInOrder (r : Registry) : List Call → Prop
  | [] => True
  | call :: calls =>
    (∀ pair ∈ (call.merges r).getLast?, MergesInOrder pair.1 pair.2) ∧
      StoresInOrder (call.apply r) calls

/-- After every call of the run each node's stored timeline is ordered. -/
def OrderedThroughout (r : Registry) (calls : List Call) : Prop :=
  ∀ before after, calls = before ++ after →
    ∀ node t, (r.run before).get? node = some t → t.Ordered

theorem gatherings_ordered_iff (directory : String) {entries : List (String × Timeline)}
    {whole : Timeline} (hentries : ∀ entry ∈ entries, entry.2.Ordered) (hwhole : whole.Ordered) :
    (∀ pair ∈ gatherings directory entries whole, (pair.1.merge pair.2).Ordered) ↔
      ∀ pair ∈ gatherings directory entries whole, ¬ MisplacesClock pair.1 pair.2 := by
  induction entries generalizing whole with
  | nil => simp [gatherings]
  | cons entry entries ih =>
      have hentry := hentries entry List.mem_cons_self
      have hrest : ∀ e ∈ entries, e.2.Ordered :=
        fun e he => hentries e (List.mem_cons_of_mem _ he)
      unfold gatherings
      split
      · have hiff := merge_ordered_iff_of_ordered hentry hwhole
        rw [List.forall_mem_cons, List.forall_mem_cons, hiff]
        apply and_congr_right
        intro hplaced
        exact ih hrest (hiff.mpr hplaced)
      · exact ih hrest hwhole

/-- The whole is the result of the last merge that gathering makes, if it makes any. -/
theorem gathered_eq_last (directory : String) (entries : List (String × Timeline))
    (whole : Timeline) :
    gathered directory entries whole =
      ((gatherings directory entries whole).getLast?.map
        fun pair => pair.1.merge pair.2).getD whole := by
  induction entries generalizing whole with
  | nil => rfl
  | cons entry entries ih =>
      unfold gathered gatherings
      split
      · rw [ih, List.getLast?_cons]
        cases (gatherings directory entries (entry.2.merge whole)).getLast? <;> rfl
      · exact ih whole

theorem gathered_ordered (directory : String) {entries : List (String × Timeline)}
    {whole : Timeline} (hwhole : whole.Ordered)
    (hlast : ∀ pair ∈ (gatherings directory entries whole).getLast?,
      (pair.1.merge pair.2).Ordered) :
    (gathered directory entries whole).Ordered := by
  rw [gathered_eq_last]
  cases hpair : (gatherings directory entries whole).getLast? with
  | none => exact hwhole
  | some pair => exact hlast pair hpair

/-! ### One call -/

variable {r : Registry}

theorem call_merges_ordered_iff {call : Call} (hr : r.Ordered)
    (hsegment : ∀ segment ∈ call.segment?, segment.TimesOrdered) :
    (∀ pair ∈ call.merges r, (pair.1.merge pair.2).Ordered) ↔
      ∀ pair ∈ call.merges r, ¬ MisplacesClock pair.1 pair.2 := by
  cases call with
  | byName segment =>
      have hordered : segment.Ordered := (hsegment segment rfl).ordered
      cases hlast : segment.last? with
      | none => simp [Call.merges, hlast]
      | some e =>
          cases hget : r.get? (e.provenance.nodeName segment.finish? r.book?) with
          | none => simp [Call.merges, hlast, hget]
          | some existing =>
              simpa [Call.merges, hlast, hget] using
                merge_ordered_iff_of_ordered (hr.get? hget) hordered
  | byDirectory path segment =>
      exact gatherings_ordered_iff _ hr (hsegment segment rfl).ordered
  | sighting identity s => simp [Call.merges]

/-- A call keeps the registry ordered if the merge that it stores is ordered; the merges before it
need not be. -/
theorem apply_ordered {call : Call} (hr : r.Ordered)
    (hsegment : ∀ segment ∈ call.segment?, segment.TimesOrdered)
    (hstored : ∀ pair ∈ (call.merges r).getLast?, (pair.1.merge pair.2).Ordered) :
    (call.apply r).Ordered := by
  cases call with
  | byName segment =>
      have hordered : segment.Ordered := (hsegment segment rfl).ordered
      cases hlast : segment.last? with
      | none => simpa [Call.apply, mergeByName_of_last?_eq_none hlast] using hr
      | some e =>
          simp only [Call.apply, mergeByName_of_last? hlast]
          apply hr.put
          cases hget : r.get? (e.provenance.nodeName segment.finish? r.book?) with
          | none => exact hordered
          | some existing =>
              apply hstored (existing, segment)
              simp [Call.merges, hlast, hget]
  | byDirectory path segment =>
      intro entry hentry
      rw [Call.apply, nodes_mergeByDirectory] at hentry
      rcases mem_of_mem_putIn hentry with rfl | hold
      · exact gathered_ordered _ (hsegment segment rfl).ordered hstored
      · exact hr entry (List.mem_of_mem_filter hold)
  | sighting identity s =>
      simp only [Call.apply, withSighting]
      cases r.book? with
      | none => exact hr
      | some book => exact hr

/-- What the last merge of a call yields is stored. -/
theorem last_merge_stored {call : Call} {pair : Timeline × Timeline}
    (hlast : (call.merges r).getLast? = some pair) :
    ∃ node, (call.apply r).get? node = some (pair.1.merge pair.2) := by
  cases call with
  | byName segment =>
      cases hsegment : segment.last? with
      | none => simp [Call.merges, hsegment] at hlast
      | some e =>
          refine ⟨e.provenance.nodeName segment.finish? r.book?, ?_⟩
          simp only [Call.apply, mergeByName_of_last? hsegment, get?_put, if_pos]
          cases hget : r.get? (e.provenance.nodeName segment.finish? r.book?) with
          | none => simp [Call.merges, hsegment, hget] at hlast
          | some existing =>
              obtain rfl : (existing, segment) = pair := by
                simpa [Call.merges, hsegment, hget] using hlast
              rfl
  | byDirectory path segment =>
      refine ⟨Text.Path.parentName path, ?_⟩
      have hwhole := gathered_eq_last (Text.Path.parentName path) r.nodes segment
      rw [show (gatherings (Text.Path.parentName path) r.nodes segment).getLast? = some pair
        from hlast] at hwhole
      rw [Call.apply, get?_mergeByDirectory, hwhole]
      rfl
  | sighting identity s => simp [Call.merges] at hlast

/-! ### Runs -/

theorem mem_merges {calls : List Call} {pair : Timeline × Timeline}
    (h : pair ∈ r.merges calls) :
    ∃ before call after, calls = before ++ call :: after ∧
      pair ∈ call.merges (r.run before) := by
  induction calls generalizing r with
  | nil => cases h
  | cons call calls ih =>
      rcases List.mem_append.mp h with hhere | hlater
      · exact ⟨[], call, calls, rfl, hhere⟩
      · obtain ⟨before, found, after, hsplit, hmerge⟩ := ih hlater
        exact ⟨call :: before, found, after, by rw [hsplit]; rfl, hmerge⟩

theorem merges_ordered_iff {calls : List Call} (hr : r.Ordered)
    (hsegments : ∀ call ∈ calls, ∀ segment ∈ call.segment?, segment.TimesOrdered) :
    (∀ pair ∈ r.merges calls, (pair.1.merge pair.2).Ordered) ↔
      ∀ pair ∈ r.merges calls, ¬ MisplacesClock pair.1 pair.2 := by
  induction calls generalizing r with
  | nil => simp [merges]
  | cons call calls ih =>
      have hsegment := hsegments call List.mem_cons_self
      have hiff := call_merges_ordered_iff hr hsegment
      unfold merges
      rw [List.forall_mem_append, List.forall_mem_append, hiff]
      apply and_congr_right
      intro hplaced
      have hmerges := hiff.mpr hplaced
      apply ih (apply_ordered hr hsegment fun pair hpair =>
        hmerges pair (List.mem_of_getLast? hpair))
      exact fun next hnext => hsegments next (List.mem_cons_of_mem _ hnext)

theorem orderedThroughout_cons {call : Call} {calls : List Call}
    (hr : r.Ordered) :
    OrderedThroughout r (call :: calls) ↔ OrderedThroughout (call.apply r) calls := by
  constructor
  · intro hthroughout before after hsplit
    exact hthroughout (call :: before) after (by rw [hsplit]; rfl)
  · intro hthroughout before after hsplit
    cases before with
    | nil => exact fun node t hstored => hr.get? hstored
    | cons first before =>
        obtain ⟨rfl, hrest⟩ := List.cons.inj hsplit
        exact hthroughout before after hrest

theorem orderedThroughout_iff {calls : List Call} (hr : r.Ordered)
    (hsegments : ∀ call ∈ calls, ∀ segment ∈ call.segment?, segment.TimesOrdered) :
    OrderedThroughout r calls ↔ r.StoresInOrder calls := by
  induction calls generalizing r with
  | nil =>
      refine iff_of_true ?_ trivial
      intro before after hsplit node t hstored
      obtain ⟨rfl, -⟩ := List.append_eq_nil_iff.mp hsplit.symm
      exact hr.get? hstored
  | cons call calls ih =>
      have hsegment := hsegments call List.mem_cons_self
      have hrest : ∀ next ∈ calls, ∀ segment ∈ next.segment?, segment.TimesOrdered :=
        fun next hnext => hsegments next (List.mem_cons_of_mem _ hnext)
      have hlast : (∀ pair ∈ (call.merges r).getLast?, MergesInOrder pair.1 pair.2) ↔
          ∀ pair ∈ (call.merges r).getLast?, (pair.1.merge pair.2).Ordered := by
        simp only [merge_ordered_iff]
      unfold StoresInOrder
      rw [orderedThroughout_cons hr, hlast]
      constructor
      · intro hthroughout
        have hstored : ∀ pair ∈ (call.merges r).getLast?, (pair.1.merge pair.2).Ordered := by
          intro pair hpair
          obtain ⟨node, hnode⟩ := last_merge_stored hpair
          exact hthroughout [] calls rfl node _ hnode
        exact ⟨hstored, (ih (apply_ordered hr hsegment hstored) hrest).mp hthroughout⟩
      · rintro ⟨hstored, hlater⟩
        exact (ih (apply_ordered hr hsegment hstored) hrest).mpr hlater

/-- A run that makes no merge out of order stores none. -/
theorem storesInOrder_of_merges_ordered {calls : List Call}
    (hmerges : ∀ pair ∈ r.merges calls, (pair.1.merge pair.2).Ordered) :
    r.StoresInOrder calls := by
  induction calls generalizing r with
  | nil => trivial
  | cons call calls ih =>
      obtain ⟨hcall, hcalls⟩ := List.forall_mem_append.mp hmerges
      refine ⟨?_, ih hcalls⟩
      intro pair hpair
      exact (merge_ordered_iff pair.1 pair.2).mp (hcall pair (List.mem_of_getLast? hpair))

theorem fresh_ordered (book? : Option NameBook) : (fresh book?).Ordered := by
  intro entry hentry
  cases hentry

private theorem merges_ordered_of_throughout {calls : List Call}
    (hsingle : ∀ before call after, calls = before ++ call :: after →
      (call.merges (r.run before)).length ≤ 1)
    (hthroughout : OrderedThroughout r calls) :
    ∀ pair ∈ r.merges calls, (pair.1.merge pair.2).Ordered := by
  intro pair hpair
  obtain ⟨before, call, after, hsplit, hmerge⟩ := mem_merges hpair
  obtain ⟨only, honly⟩ : ∃ only, call.merges (r.run before) = [only] := by
    apply List.length_eq_one_iff.mp
    have hpositive := List.length_pos_of_mem hmerge
    have hone := hsingle before call after hsplit
    omega
  rw [honly] at hmerge
  obtain rfl := List.mem_singleton.mp hmerge
  have hlast : (call.merges (r.run before)).getLast? = some pair := by simp [honly]
  obtain ⟨node, hstored⟩ := last_merge_stored hlast
  apply hthroughout (before ++ [call]) after (by simp [hsplit]) node
  rw [run_append]
  exact hstored

/-- When a run keeps what it stores in order: exactly when each call merges in order what it stores.
It does if no merge of the run misplaces a clock, and where no call makes more than one merge it
does only then. -/
theorem ordered_throughout_iff (book? : Option NameBook) (calls : List Call)
    (hsegments : ∀ call ∈ calls, ∀ segment ∈ call.segment?, segment.TimesOrdered) :
    (OrderedThroughout (fresh book?) calls ↔ (fresh book?).StoresInOrder calls) ∧
    ((∀ pair ∈ (fresh book?).merges calls, ¬ MisplacesClock pair.1 pair.2) →
      OrderedThroughout (fresh book?) calls) ∧
    ((∀ before call after, calls = before ++ call :: after →
        (call.merges ((fresh book?).run before)).length ≤ 1) →
      (OrderedThroughout (fresh book?) calls ↔
        ∀ pair ∈ (fresh book?).merges calls, ¬ MisplacesClock pair.1 pair.2)) := by
  have hexact := orderedThroughout_iff (fresh_ordered book?) hsegments
  have hmerges := merges_ordered_iff (fresh_ordered book?) hsegments
  have hplaced (h : ∀ pair ∈ (fresh book?).merges calls, ¬ MisplacesClock pair.1 pair.2) :
      OrderedThroughout (fresh book?) calls :=
    hexact.mpr (storesInOrder_of_merges_ordered (hmerges.mpr h))
  refine ⟨hexact, hplaced, ?_⟩
  intro hsingle
  constructor
  · intro hthroughout
    exact hmerges.mp (merges_ordered_of_throughout hsingle hthroughout)
  · exact hplaced

/-- Three segments of one node, the middle one first. It ends with a notice at `notice`, long after
its last clock, and the earliest segment comes last and reaches to `reach`. -/
def threeSegments (notice reach : Nat) : List Call :=
  [.byDirectory "/logs/n/error.log.2"
      ⟨[.bare "/logs/n/error.log.2" 3, .bare "/logs/n/recovery.log" notice "recovery.log"],
        .samePattern⟩,
    .byDirectory "/logs/n/error.log.3"
      ⟨[.bare "/logs/n/error.log.3" 5, .bare "/logs/n/error.log.3" 20], .samePattern⟩,
    .byDirectory "/logs/n/error.log.1"
      ⟨[.bare "/logs/n/error.log.1" 1, .bare "/logs/n/error.log.1" reach], .samePattern⟩]

/-- The notice at 9 stands before the clock 5, but a cut at 4 leaves no clock behind it. -/
theorem notice_beyond_short_cut_ordered :
    (∀ call ∈ threeSegments 9 4, ∀ segment ∈ call.segment?, segment.TimesOrdered) ∧
      OrderedThroughout (fresh none) (threeSegments 9 4) := by
  have hsegments : ∀ call ∈ threeSegments 9 4, ∀ segment ∈ call.segment?,
      segment.TimesOrdered := by decide +kernel
  have hplaced : ∀ pair ∈ (fresh none).merges (threeSegments 9 4),
      ¬ MisplacesClock pair.1 pair.2 := by decide +kernel
  exact ⟨hsegments, (ordered_throughout_iff none (threeSegments 9 4) hsegments).2.1 hplaced⟩

/-- A cut at 10 goes by the notice at 30 and leaves the clock 5 behind the clock 10. -/
theorem notice_beyond_long_cut_not_ordered :
    ¬ ∀ (book? : Option NameBook) (calls : List Call),
      (∀ call ∈ calls, ∀ segment ∈ call.segment?, segment.TimesOrdered) →
        OrderedThroughout (fresh book?) calls := by
  intro halways
  have hthroughout := halways none (threeSegments 30 10) (by decide +kernel)
  have hstored : ∀ t ∈ ((fresh none).run (threeSegments 30 10)).get? "n", t.Ordered :=
    fun t ht => hthroughout (threeSegments 30 10) [] (by simp) "n" t ht
  exact absurd hstored (by decide +kernel)

end NodeHistory.Registry

import Mathlib.Data.List.Induction
import NodeHistory.Node.Interleaving
import NodeHistory.Proofs.Node.Run
import NodeHistory.Proofs.Timeline.Clocks

/-!
The queues of an interleaving. Handing out takes the head of one queue and leaves all others
alone. The nodes served next are exactly the filled ones whose next clock no other filled node
precedes, in the order of the queues.
-/

namespace NodeHistory.Interleaving

open Time

/-! ### One queue -/

theorem queue_ofRegistry (r : Registry) (node : String) :
    (ofRegistry r).queue node = ((r.get? node).map (·.events)).getD [] := by
  have hlookup (entries : List (String × Timeline)) :
      (entries.map entryOf).lookup node = (entries.lookup node).map (·.events) := by
    induction entries with
    | nil => rfl
    | cons entry entries ih =>
        obtain ⟨key, t⟩ := entry
        simp only [List.map_cons, entryOf, Registry.lookup_cons_ite]
        split
        · rfl
        · exact ih
  unfold queue ofRegistry Registry.get?
  rw [hlookup]

theorem queue_advance (i : Interleaving) (node other : String) :
    (i.advance node).queue other =
      if other = node then (i.queue node).tail else i.queue other := by
  have hlookup (entries : List (String × List Event)) :
      (entries.map (advanceEntry node)).lookup other =
        (entries.lookup other).map fun events =>
          if other = node then events.tail else events := by
    induction entries with
    | nil => rfl
    | cons entry entries ih =>
        obtain ⟨key, events⟩ := entry
        by_cases hkey : key = node
        · subst hkey
          simp only [List.map_cons, advanceEntry, if_true, Registry.lookup_cons_ite, ih]
          split <;> simp_all
        · simp only [List.map_cons, advanceEntry, if_neg hkey, Registry.lookup_cons_ite, ih]
          split <;> simp_all
  unfold queue advance
  rw [hlookup]
  by_cases hsame : other = node
  · subst hsame
    cases i.queues.lookup other <;> simp
  · simp [hsame]

theorem queue_of_mem {i : Interleaving} {entry : String × List Event} (h : entry ∈ i.queues) :
    i.queue entry.1 = entry.2 := by
  unfold queue
  have hlookup : ∀ entries : List (String × List Event), (entries.map (·.1)).Nodup →
      entry ∈ entries → entries.lookup entry.1 = some entry.2 := by
    intro entries hdistinct hmem
    induction entries with
    | nil => cases hmem
    | cons head rest ih =>
        obtain ⟨hfresh, hrest⟩ := List.nodup_cons.mp hdistinct
        rcases List.mem_cons.mp hmem with rfl | hmem
        · exact List.lookup_cons_self
        · have hdiffers : ¬ entry.1 = head.1 := by
            intro hsame
            exact hfresh (List.mem_map.mpr ⟨entry, hmem, hsame⟩)
          rw [Registry.lookup_cons_ite, if_neg hdiffers]
          exact ih hrest hmem
  rw [hlookup i.queues i.distinct h]
  rfl

theorem mem_of_queue_ne_nil {i : Interleaving} {node : String} (h : i.queue node ≠ []) :
    (node, i.queue node) ∈ i.queues := by
  cases hlookup : i.queues.lookup node with
  | none => simp [queue, hlookup] at h
  | some events =>
      have hqueue : i.queue node = events := by simp [queue, hlookup]
      obtain ⟨before, after, hsplit, -⟩ := List.lookup_eq_some_iff.mp hlookup
      rw [hqueue, hsplit]
      exact List.mem_append_right _ List.mem_cons_self

private theorem map_eq_self {α : Type} {f : α → α} {l : List α} (h : ∀ x ∈ l, f x = x) :
    l.map f = l :=
  (List.map_congr_left h).trans (List.map_id l)

/-- Serving a node with nothing left changes nothing. -/
theorem advance_of_queue_eq_nil {i : Interleaving} {node : String} (h : i.queue node = []) :
    i.advance node = i := by
  have hsame : i.queues.map (advanceEntry node) = i.queues := by
    apply map_eq_self
    intro entry hentry
    unfold advanceEntry
    split
    · rename_i hhere
      have hqueue := queue_of_mem hentry
      rw [hhere, h] at hqueue
      rw [← hqueue, ← hhere]
      exact Prod.ext rfl hqueue
    · rfl
  unfold advance
  congr

theorem more_iff {i : Interleaving} : i.more = true ↔ ∃ node, i.queue node ≠ [] := by
  simp only [more, List.any_eq_true, Bool.not_eq_true', List.isEmpty_eq_false_iff]
  constructor
  · rintro ⟨entry, hentry, hfilled⟩
    exact ⟨entry.1, by rwa [queue_of_mem hentry]⟩
  · rintro ⟨node, hfilled⟩
    exact ⟨_, mem_of_queue_ne_nil hfilled, hfilled⟩

theorem queue_eq_nil_of_not_more {i : Interleaving} (h : i.more = false) (node : String) :
    i.queue node = [] := by
  by_contra hfilled
  rw [more_iff.mpr ⟨node, hfilled⟩] at h
  cases h

theorem remaining_pos_iff {i : Interleaving} {node : String} :
    0 < i.remaining node ↔ i.queue node ≠ [] :=
  List.length_pos_iff

theorem dequeue_eq_none_iff {i : Interleaving} {node : String} :
    (i.dequeue node).1 = none ↔ i.remaining node = 0 := by
  simp [dequeue, remaining]

/-! ### All queues -/

theorem size_advance {i : Interleaving} {node : String} (h : i.queue node ≠ []) :
    (i.advance node).size + 1 = i.size := by
  obtain ⟨before, after, hsplit⟩ := List.append_of_mem (mem_of_queue_ne_nil h)
  have hdistinct := i.distinct
  rw [hsplit, List.map_append, List.map_cons] at hdistinct
  obtain ⟨-, hafter, hbefore⟩ := List.nodup_append.mp hdistinct
  have hrest : after.map (advanceEntry node) = after := by
    apply map_eq_self
    intro entry hentry
    have hdiffers : ¬ entry.1 = node := fun hsame =>
      (List.nodup_cons.mp hafter).1 (List.mem_map.mpr ⟨entry, hentry, hsame⟩)
    exact if_neg hdiffers
  have hfirst : before.map (advanceEntry node) = before := by
    apply map_eq_self
    intro entry hentry
    have hdiffers : ¬ entry.1 = node := fun hsame =>
      hbefore entry.1 (List.mem_map_of_mem hentry) node List.mem_cons_self hsame
    exact if_neg hdiffers
  have hlength : (i.queue node).tail.length + 1 = (i.queue node).length := by
    have hpositive := List.length_pos_iff.mpr h
    rw [List.length_tail]
    omega
  have hadvanced : (i.advance node).queues = before ++ (node, (i.queue node).tail) :: after := by
    change i.queues.map (advanceEntry node) = _
    rw [hsplit, List.map_append, List.map_cons, hrest, hfirst]
    simp [advanceEntry]
  unfold size
  rw [hadvanced, hsplit]
  simp only [List.flatMap_append, List.flatMap_cons, List.length_append]
  omega

theorem size_eq_zero_iff {i : Interleaving} : i.size = 0 ↔ i.more = false := by
  rw [← Bool.not_eq_true, more_iff, not_exists, size, List.length_eq_zero_iff,
    List.flatMap_eq_nil_iff]
  constructor
  · intro h node hfilled
    exact hfilled (h _ (mem_of_queue_ne_nil hfilled))
  · intro h entry hentry
    rw [← queue_of_mem hentry]
    exact not_not.mp (h entry.1)

/-! ### The nodes served next -/

/-- The entry has an event left, and no other filled entry comes before it. -/
def Leads (entries : List (String × List Event)) (entry : String × List Event) : Prop :=
  entry.2 ≠ [] ∧ ∀ other ∈ entries, other.2 ≠ [] →
    rank (Event.startOf entry.2) ≤ rank (Event.startOf other.2)

instance (entries : List (String × List Event)) (entry : String × List Event) :
    Decidable (Leads entries entry) :=
  inferInstanceAs (Decidable (_ ∧ _))

/-- What the search for the next nodes knows after the given entries: nothing while all of them are
empty, else the earliest next clock and the nodes that have it. -/
inductive Best (entries : List (String × List Event)) : Option Leaders → Prop where
  | unseen (empty : ∀ entry ∈ entries, entry.2 = []) : Best entries none
  | seen (best : Leaders)
      (nodes : best.nodes = (entries.filter fun entry =>
        decide (entry.2 ≠ [] ∧ Event.startOf entry.2 = best.time?)).map (·.1))
      (least : ∀ entry ∈ entries, entry.2 ≠ [] →
        rank best.time? ≤ rank (Event.startOf entry.2))
      (attained : ∃ entry ∈ entries, entry.2 ≠ [] ∧ Event.startOf entry.2 = best.time?) :
      Best entries (some best)

/-- An entry that comes before all filled ones is alone at the front. -/
private theorem Best.alone {entries : List (String × List Event)}
    {entry : String × List Event} (hfilled : entry.2 ≠ [])
    (hearlier : ∀ other ∈ entries, other.2 ≠ [] →
      rank (Event.startOf entry.2) < rank (Event.startOf other.2)) :
    Best (entries ++ [entry]) (some ⟨Event.startOf entry.2, [entry.1]⟩) := by
  have hnone : entries.filter (fun other =>
      decide (other.2 ≠ [] ∧ Event.startOf other.2 = Event.startOf entry.2)) = [] := by
    apply List.filter_eq_nil_iff.mpr
    intro other hother
    simp only [decide_eq_true_eq, not_and]
    intro hother' hsame
    have hbefore := hearlier other hother hother'
    rw [hsame] at hbefore
    exact absurd hbefore (lt_irrefl _)
  refine .seen _ ?_ ?_ ⟨entry, by simp, hfilled, rfl⟩
  · rw [List.filter_append, hnone]
    simp [hfilled]
  · rw [List.forall_mem_append, List.forall_mem_singleton]
    exact ⟨fun other hother hother' => (hearlier other hother hother').le, fun _ => le_refl _⟩

private theorem Best.lead {entries : List (String × List Event)} {best? : Option Leaders}
    (h : Best entries best?) (entry : String × List Event) :
    Best (entries ++ [entry]) (lead best? entry) := by
  unfold Interleaving.lead
  split
  · rename_i hempty
    have hnil : entry.2 = [] := List.isEmpty_iff.mp hempty
    cases h with
    | unseen empty =>
        apply Best.unseen
        rw [List.forall_mem_append, List.forall_mem_singleton]
        exact ⟨empty, hnil⟩
    | seen best nodes least attained =>
        obtain ⟨first, hfirst, hclock⟩ := attained
        refine .seen best ?_ ?_ ⟨first, List.mem_append_left _ hfirst, hclock⟩
        · simp [nodes, hnil]
        · rw [List.forall_mem_append, List.forall_mem_singleton]
          exact ⟨least, fun hfilled => absurd hnil hfilled⟩
  · rename_i hempty
    have hfilled : entry.2 ≠ [] := by simpa using hempty
    cases h with
    | unseen empty =>
        apply Best.alone hfilled
        intro other hother hother'
        exact absurd (empty other hother) hother'
    | seen best nodes least attained =>
        dsimp only
        split
        · rename_i hearlier
          apply Best.alone hfilled
          intro other hother hother'
          exact (precedes_iff.mp hearlier).trans_le (least other hother hother')
        · rename_i hearlier
          have hlater := not_precedes_iff.mp (Bool.not_eq_true _ ▸ hearlier)
          have hleast : ∀ other ∈ entries ++ [entry], other.2 ≠ [] →
              rank best.time? ≤ rank (Event.startOf other.2) := by
            rw [List.forall_mem_append, List.forall_mem_singleton]
            exact ⟨least, fun _ => hlater⟩
          obtain ⟨first, hfirst, hclock⟩ := attained
          split
          · rename_i htie
            refine .seen _ ?_ hleast ⟨first, List.mem_append_left _ hfirst, hclock⟩
            simp [nodes, hfilled, htie]
          · rename_i htie
            refine .seen _ ?_ hleast ⟨first, List.mem_append_left _ hfirst, hclock⟩
            simp [nodes, htie]

private theorem best_foldl (entries : List (String × List Event)) :
    Best entries (entries.foldl lead none) := by
  induction entries using List.reverseRecOn with
  | nil => exact .unseen fun _ hentry => nomatch hentry
  | append_singleton entries entry ih =>
      rw [List.foldl_append]
      exact ih.lead entry

/-- Where some entry has an event left, some entry leads. -/
theorem exists_leads {entries : List (String × List Event)} {filled : String × List Event}
    (hmember : filled ∈ entries) (hfilled : filled.2 ≠ []) :
    ∃ entry ∈ entries, Leads entries entry := by
  have hbest := best_foldl entries
  generalize entries.foldl lead none = best? at hbest
  cases hbest with
  | unseen empty => exact absurd (empty filled hmember) hfilled
  | seen best nodes least attained =>
      obtain ⟨first, hfirst, hfirstFilled, hclock⟩ := attained
      rw [← hclock] at least
      exact ⟨first, hfirst, hfirstFilled, least⟩

/-- The nodes served next, in the order of the queues. -/
theorem nextNodes_eq (i : Interleaving) :
    i.nextNodes = (i.queues.filter fun entry => decide (Leads i.queues entry)).map (·.1) := by
  have hbest := best_foldl i.queues
  unfold nextNodes
  cases hfold : i.queues.foldl lead none with
  | none =>
      rw [hfold] at hbest
      cases hbest with
      | unseen empty =>
          have hnone : i.queues.filter (fun entry => decide (Leads i.queues entry)) = [] := by
            apply List.filter_eq_nil_iff.mpr
            intro entry hentry
            simp [Leads, empty entry hentry]
          rw [hnone]
          rfl
  | some best =>
      rw [hfold] at hbest
      cases hbest with
      | seen _ nodes least attained =>
          obtain ⟨first, hfirst, hfilled, hclock⟩ := attained
          dsimp only
          rw [nodes]
          congr 1
          apply List.filter_congr
          intro entry hentry
          rw [decide_eq_decide]
          constructor
          · rintro ⟨hentry', hsame⟩
            refine ⟨hentry', ?_⟩
            rw [hsame]
            exact least
          · rintro ⟨hentry', hleads⟩
            refine ⟨hentry', rank_injective (le_antisymm ?_ (least entry hentry hentry'))⟩
            rw [← hclock]
            exact hleads first hfirst hfilled

theorem mem_nextNodes_iff_leads {i : Interleaving} {entry : String × List Event}
    (hentry : entry ∈ i.queues) : entry.1 ∈ i.nextNodes ↔ Leads i.queues entry := by
  rw [nextNodes_eq, List.mem_map]
  constructor
  · rintro ⟨other, hother, hname⟩
    rw [List.mem_filter, decide_eq_true_eq] at hother
    obtain rfl := List.inj_on_of_nodup_map i.distinct hother.1 hentry hname
    exact hother.2
  · intro hleads
    exact ⟨entry, List.mem_filter.mpr ⟨hentry, decide_eq_true hleads⟩, rfl⟩

theorem mem_nextNodes {i : Interleaving} {node : String} :
    node ∈ i.nextNodes ↔ i.queue node ≠ [] ∧ ∀ other, i.queue other ≠ [] →
      rank (Event.startOf (i.queue node)) ≤ rank (Event.startOf (i.queue other)) := by
  rw [nextNodes_eq, List.mem_map]
  constructor
  · rintro ⟨entry, hentry, rfl⟩
    rw [List.mem_filter, decide_eq_true_eq] at hentry
    obtain ⟨hmember, hfilled, hleads⟩ := hentry
    rw [queue_of_mem hmember]
    refine ⟨hfilled, ?_⟩
    intro other hother
    exact hleads _ (mem_of_queue_ne_nil hother) hother
  · rintro ⟨hfilled, hleads⟩
    refine ⟨(node, i.queue node), ?_, rfl⟩
    rw [List.mem_filter, decide_eq_true_eq]
    refine ⟨mem_of_queue_ne_nil hfilled, hfilled, ?_⟩
    intro other hmember hother
    have hqueue := queue_of_mem hmember
    rw [← hqueue] at hother ⊢
    exact hleads other.1 hother

theorem nodup_nextNodes (i : Interleaving) : i.nextNodes.Nodup := by
  rw [nextNodes_eq]
  exact i.distinct.sublist (List.filter_sublist.map _)

theorem nextNodes_ne_nil_iff {i : Interleaving} : i.nextNodes ≠ [] ↔ i.more = true := by
  rw [more_iff]
  constructor
  · intro h
    obtain ⟨node, hnode⟩ := List.exists_mem_of_ne_nil _ h
    exact ⟨node, (mem_nextNodes.mp hnode).1⟩
  · rintro ⟨node, hfilled⟩
    obtain ⟨entry, hentry, hleads⟩ := exists_leads (mem_of_queue_ne_nil hfilled) hfilled
    exact List.ne_nil_of_mem ((mem_nextNodes_iff_leads hentry).mpr hleads)

end NodeHistory.Interleaving

import Mathlib.Data.List.Sort
import NodeHistory.Proofs.Node.DeliveryOrder
import NodeHistory.Proofs.Timeline.Joint

/-!
Windows of one record, delivered in the order of their starts, as rotated files of a log are. What
is accumulated may have holes, but whatever a merge discards of a window is there already, by the
window that reached furthest so far. A moment is stored twice only where a window begins exactly
where the accumulated span ends. Without such a joint the accumulated timeline is, after every
delivery, the part of the record that the windows cover.
-/

namespace NodeHistory

open Time

namespace Event

/-- What an event says, without where it comes from. -/
def content (e : Event) : Event := { e with provenance := {} }

theorem StemsFrom.content_eq {e original : Event} (h : e.StemsFrom original) :
    e.content = original.content := by
  rcases h with rfl | ⟨earlier, rfl⟩
  · rfl
  · rfl

/-- Strictly earlier by the times of the events, whatever their files. -/
def Before (a b : Event) : Prop := rank a.time? < rank b.time?

instance : Std.Irrefl Before := ⟨fun _ => lt_irrefl _⟩

instance : Std.Antisymm Before := ⟨fun _ _ hab hba => absurd hab (not_lt_of_gt hba)⟩

end Event

namespace Timeline

/-! ### Rising events -/

theorem Rising.pairwise_before {events : List Event} (h : Rising events) :
    (events.map Event.content).Pairwise Event.Before := by
  rw [List.pairwise_map]
  refine (List.pairwise_filterMap.mp h.rises).imp_of_mem ?_
  intro a b ha hb hab
  obtain ⟨c, hc⟩ := Option.isSome_iff_exists.mp (h.clocked a ha)
  obtain ⟨d, hd⟩ := Option.isSome_iff_exists.mp (h.clocked b hb)
  change rank a.time? < rank b.time?
  rw [(Event.clock?_eq_some_iff.mp hc).2, (Event.clock?_eq_some_iff.mp hd).2]
  exact WithBot.coe_lt_coe.mpr (hab c hc d hd)

/-- In rising events the time tells which event it is. -/
theorem Rising.eq_of_time?_eq {events : List Event} (h : Rising events) {a b : Event}
    (ha : a ∈ events) (hb : b ∈ events) (htime : a.time? = b.time?) : a = b := by
  have hclock (e : Event) (he : e ∈ events) : e.clock? = e.time? := by
    obtain ⟨c, hc⟩ := Option.isSome_iff_exists.mp (h.clocked e he)
    exact hc.trans (Event.clock?_eq_some_iff.mp hc).2.symm
  have hsame : a.clock? = b.clock? := by
    rw [hclock a ha, hclock b hb, htime]
  exact List.inj_on_of_nodup_map h.nodup_clock ha hb hsame

variable {record : List Event} {acc w : Timeline}

theorem IsWindow.rising (hrecord : Rising record) (hw : IsWindow record w) : Rising w.events :=
  hrecord.sublist hw.contiguous.sublist

/-! ### Windows in the order of their starts -/

/-- No window starts before an earlier one. -/
def StartsInOrder (windows : List Timeline) : Prop :=
  windows.Pairwise fun v w => precedes w.start? v.start? = false

instance (windows : List Timeline) : Decidable (StartsInOrder windows) :=
  inferInstanceAs (Decidable (windows.Pairwise _))

/-- The window begins at the accumulated last clock and not at the accumulated first one. -/
def Touches (acc w : Timeline) : Prop := w.start? = acc.finish? ∧ w.start? ≠ acc.start?

instance (acc w : Timeline) : Decidable (Touches acc w) := inferInstanceAs (Decidable (_ ∧ _))

variable {arrived : List Timeline}

/-- What the span of the accumulated timeline hides of a later window is stored already. -/
theorem mem_clocks_accumulated (hrecord : Rising record)
    (hwindows : ∀ w ∈ arrived, IsWindow record w) (hstarts : StartsInOrder arrived) (c : Instant) :
    c ∈ (accumulated arrived).clocks ↔ ∃ w ∈ arrived, c ∈ w.clocks := by
  induction arrived using List.reverseRecOn with
  | nil => simp [accumulated, clocks, Event.clocks]
  | append_singleton arrived w ih =>
      have hw : IsWindow record w := hwindows w (by simp)
      have hearlier : ∀ v ∈ arrived, IsWindow record v :=
        fun v hv => hwindows v (List.mem_append_left _ hv)
      obtain ⟨hstarts, -, hlast⟩ := List.pairwise_append.mp hstarts
      have hmem := ih hearlier hstarts
      by_cases hnone : arrived = []
      · simp [hnone, accumulated_singleton]
      obtain ⟨hacc, hspans, -⟩ := accumulated_windows hrecord hearlier hnone
      have hsplit : (∃ v ∈ arrived ++ [w], c ∈ v.clocks) ↔
          (∃ v ∈ arrived, c ∈ v.clocks) ∨ c ∈ w.clocks := by
        simp [or_and_right, exists_or]
      rw [accumulated_snoc, mem_clocks_merge_window hrecord hacc hw, hmem, hsplit]
      constructor
      · rintro (hold | ⟨hnew, -⟩)
        · exact Or.inl hold
        · exact Or.inr hnew
      · rintro (hold | hnew)
        · exact Or.inl hold
        by_cases hlate : rank (accumulated arrived).finish? < c
        · exact Or.inr ⟨hnew, Or.inr (Or.inr hlate)⟩
        · -- the window that reaches to the accumulated end started no later than this one
          rw [hspans.finish_lt] at hlate
          push Not at hlate
          obtain ⟨v, hv, hreach⟩ := hlate
          have hbegin : rank v.start? ≤ rank w.start? :=
            not_precedes_iff.mp (hlast v hv w (List.mem_singleton_self w))
          have hopen := hbegin.trans ((hw.rising hrecord).ordered.rank_start_le hnew)
          have hclock := (hw.accumulated hrecord).within c hnew
          exact Or.inl ⟨v, hv, (hearlier v hv).mem_clocks hrecord hclock hopen hreach⟩

theorem accumulated_rising (hrecord : Rising record)
    (hwindows : ∀ w ∈ arrived, IsWindow record w) (hstarts : StartsInOrder arrived)
    (hjoints : ∀ before w after, arrived = before ++ w :: after →
      ¬ Touches (accumulated before) w) :
    Rising (accumulated arrived).events := by
  induction arrived using List.reverseRecOn with
  | nil =>
      constructor
      · intro e he
        cases he
      · exact List.Pairwise.nil
  | append_singleton arrived w ih =>
      have hw : IsWindow record w := hwindows w (by simp)
      have hearlier : ∀ v ∈ arrived, IsWindow record v :=
        fun v hv => hwindows v (List.mem_append_left _ hv)
      obtain ⟨hstarts, -, hlast⟩ := List.pairwise_append.mp hstarts
      by_cases hnone : arrived = []
      · rw [hnone, List.nil_append, accumulated_singleton]
        exact hw.rising hrecord
      obtain ⟨hacc, hspans, -⟩ := accumulated_windows hrecord hearlier hnone
      have hrising : Rising (accumulated arrived).events := by
        apply ih hearlier hstarts
        intro before v after hsplit
        exact hjoints before v (after ++ [w]) (by simp [hsplit])
      have hjoint : ¬ Touches (accumulated arrived) w := hjoints arrived w [] rfl
      have trails : rank (accumulated arrived).start? ≤ rank w.start? := by
        obtain ⟨v, hv⟩ := List.exists_mem_of_ne_nil _ hnone
        have hfirst := (hspans.le_start _).mp le_rfl v hv
        exact hfirst.trans (not_precedes_iff.mp (hlast v hv w (List.mem_singleton_self w)))
      have hmerge := merge_reconciles hacc.isEmpty (hw.accumulated hrecord).isEmpty
      have hleads : precedes w.start? (accumulated arrived).start? = false :=
        not_precedes_iff.mpr trails
      simp only [leading, trailing, hleads, Bool.false_eq_true, if_false] at hmerge
      rw [accumulated_snoc]
      apply (hmerge.rising_iff hrising (hw.rising hrecord)).mpr
      exact fun habuts => hjoint ⟨habuts.joint, habuts.start_ne⟩

/-- Every accumulated event is an event of some window, but for its provenance. -/
theorem exists_content_of_mem_accumulated {e : Event} (he : e ∈ (accumulated arrived).events) :
    ∃ w ∈ arrived, ∃ source ∈ w.events, e.content = source.content := by
  induction arrived using List.reverseRecOn generalizing e with
  | nil => cases he
  | append_singleton arrived w ih =>
      rw [accumulated_snoc] at he
      obtain ⟨source, hsource, hstems⟩ := exists_stemsFrom_of_mem_merge he
      rcases hsource with hold | hnew
      · obtain ⟨v, hv, first, hfirst, hsame⟩ := ih hold
        exact ⟨v, List.mem_append_left _ hv, first, hfirst, hstems.content_eq.trans hsame⟩
      · exact ⟨w, by simp, source, hnew, hstems.content_eq⟩

/-- The accumulated events are the events of the windows, but for their provenance. -/
private theorem mem_content_accumulated (hrecord : Rising record)
    (hwindows : ∀ w ∈ arrived, IsWindow record w) (hstarts : StartsInOrder arrived) (x : Event) :
    x ∈ (accumulated arrived).events.map Event.content ↔
      ∃ w ∈ arrived, ∃ e ∈ w.events, e.content = x := by
  constructor
  · intro hx
    obtain ⟨e, he, rfl⟩ := List.mem_map.mp hx
    obtain ⟨w, hw, source, hsource, hsame⟩ := exists_content_of_mem_accumulated he
    exact ⟨w, hw, source, hsource, hsame.symm⟩
  · rintro ⟨w, hw, e, he, rfl⟩
    have hrecorded (v : Timeline) (hv : v ∈ arrived) : v.events ⊆ record :=
      (hwindows v hv).contiguous.subset
    obtain ⟨c, hc⟩ := Option.isSome_iff_exists.mp (hrecord.clocked e (hrecorded w hw he))
    have hstored : c ∈ (accumulated arrived).clocks :=
      (mem_clocks_accumulated hrecord hwindows hstarts c).mpr
        ⟨w, hw, Event.mem_clocks.mpr ⟨e, he, hc⟩⟩
    obtain ⟨stored, hmember, hclock⟩ := Event.mem_clocks.mp hstored
    obtain ⟨v, hv, source, hsource, hsame⟩ := exists_content_of_mem_accumulated hmember
    -- the stored event and its source tell the same time, which singles out one event
    have htime : source.time? = e.time? :=
      calc source.time? = stored.time? := (congrArg Event.time? hsame).symm
        _ = some c := (Event.clock?_eq_some_iff.mp hclock).2
        _ = e.time? := (Event.clock?_eq_some_iff.mp hc).2.symm
    have heq : source = e :=
      hrecord.eq_of_time?_eq (hrecorded v hv hsource) (hrecorded w hw he) htime
    exact List.mem_map.mpr ⟨stored, hmember, hsame.trans (congrArg _ heq)⟩

/-- Windows of one record, delivered in the order of their starts and without a joint, restore the
part of the record that they cover, after every delivery. -/
theorem windows_in_order_restore_record (hrecord : Rising record) {windows : List Timeline}
    (hwindows : ∀ w ∈ windows, IsWindow record w) (hstarts : StartsInOrder windows)
    (hjoints : ∀ before w after, windows = before ++ w :: after →
      ¬ Touches (accumulated before) w) :
    ∀ before after, windows = before ++ after →
      (accumulated before).events.map Event.content =
        (record.filter fun e => ∃ w ∈ before, e ∈ w.events).map Event.content := by
  rintro before after rfl
  have hbefore : ∀ w ∈ before, IsWindow record w :=
    fun w hw => hwindows w (List.mem_append_left _ hw)
  have hinorder : StartsInOrder before := (List.pairwise_append.mp hstarts).1
  have hrising : Rising (accumulated before).events := by
    apply accumulated_rising hrecord hbefore hinorder
    intro first w rest hsplit
    exact hjoints first w (rest ++ after) (by simp [hsplit])
  have hpart : Rising (record.filter fun e => ∃ w ∈ before, e ∈ w.events) :=
    hrecord.sublist List.filter_sublist
  apply hrising.pairwise_before.eq_of_mem_iff hpart.pairwise_before
  intro x
  rw [mem_content_accumulated hrecord hbefore hinorder]
  constructor
  · rintro ⟨w, hw, e, he, rfl⟩
    have hrecorded : e ∈ record := (hbefore w hw).contiguous.subset he
    exact List.mem_map_of_mem (List.mem_filter.mpr ⟨hrecorded, by simpa using ⟨w, hw, he⟩⟩)
  · intro hx
    obtain ⟨e, he, rfl⟩ := List.mem_map.mp hx
    obtain ⟨w, hw, hmember⟩ : ∃ w ∈ before, e ∈ w.events := by
      simpa using (List.mem_filter.mp he).2
    exact ⟨w, hw, e, hmember, rfl⟩

/-- Windows of the six events: two with one start, a nested one, one that overlaps and one after a
hole. The second begins where the first ends, but that is where the first begins too. -/
def windowsInOrder : List Timeline :=
  [Registry.windowOf 0 1, Registry.windowOf 0 3, Registry.windowOf 1 1, Registry.windowOf 1 3,
    Registry.windowOf 5 1].map (·.2)

theorem windows_with_hole_restore_record :
    Rising Registry.sixEvents ∧ (∀ w ∈ windowsInOrder, IsWindow Registry.sixEvents w) ∧
    StartsInOrder windowsInOrder ∧
    (∀ before w after, windowsInOrder = before ++ w :: after →
      ¬ Touches (accumulated before) w) ∧
    ∀ before after, windowsInOrder = before ++ after →
      (accumulated before).events.map Event.content =
        (Registry.sixEvents.filter fun e => ∃ w ∈ before, e ∈ w.events).map Event.content := by
  have hrecord : Rising Registry.sixEvents := by decide +kernel
  have hwindows : ∀ w ∈ windowsInOrder, IsWindow Registry.sixEvents w := by decide +kernel
  have hstarts : StartsInOrder windowsInOrder := by decide +kernel
  have hplaces : ∀ k < 5, ∀ w ∈ windowsInOrder[k]?,
      ¬ Touches (accumulated (windowsInOrder.take k)) w := by decide +kernel
  have hjoints : ∀ before w after, windowsInOrder = before ++ w :: after →
      ¬ Touches (accumulated before) w := by
    intro before w after hsplit
    have hlength : windowsInOrder.length = 5 := rfl
    have hplace : before.length < 5 := by
      rw [← hlength, hsplit]
      simp
    simpa [hsplit] using hplaces before.length hplace w (by simp [hsplit])
  exact ⟨hrecord, hwindows, hstarts, hjoints,
    windows_in_order_restore_record hrecord hwindows hstarts hjoints⟩

end Timeline

end NodeHistory

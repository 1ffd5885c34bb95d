import Mathlib.Data.List.TakeWhile
import NodeHistory.Proofs.Timeline.Clocks

/-!
What merging two timelines can come to. Of two filled timelines one leads and the other trails,
and `Reconciles` lists the ways in which they become one, each with the position of the two spans
that leads to it. Later proofs go by these ways and do not open the definition of `merge`.
-/

namespace NodeHistory.Timeline

open Time

/-- The timeline that goes first: the one that starts strictly earlier, else the first one. -/
def leading (a b : Timeline) : Timeline := if precedes b.start? a.start? then b else a

def trailing (a b : Timeline) : Timeline := if precedes b.start? a.start? then a else b

/-- Both start at the same set moment, as two copies of one recording do. -/
def SameStart (a b : Timeline) : Prop := a.start?.isSome = true ∧ a.start? = b.start?

inductive Reconciles (earlier later : Timeline) : Timeline → Prop where
  | superseded (same : SameStart earlier later)
      (outlasted : rank earlier.finish? < rank later.finish?) : Reconciles earlier later later
  | kept (same : SameStart earlier later)
      (lasts : rank later.finish? ≤ rank earlier.finish?) : Reconciles earlier later earlier
  | contained (apart : ¬ SameStart earlier later) (set : earlier.finish?.isSome = true)
      (lasts : rank later.finish? ≤ rank earlier.finish?) : Reconciles earlier later earlier
  | cut (apart : ¬ SameStart earlier later)
      (outlasted : rank earlier.finish? < rank later.finish?)
      (meets : rank later.start? < rank earlier.finish?) :
      Reconciles earlier later (earlier.join (later.after earlier.finish?))
  | appended (apart : ¬ SameStart earlier later)
      (outlasted : earlier.finish?.isSome = true → rank earlier.finish? < rank later.finish?)
      (follows : rank earlier.finish? ≤ rank later.start?) :
      Reconciles earlier later (earlier.join later)

theorem leading_trailing_cases (a b : Timeline) :
    (leading a b = a ∧ trailing a b = b) ∨ (leading a b = b ∧ trailing a b = a) := by
  unfold leading trailing
  split
  · exact Or.inr ⟨rfl, rfl⟩
  · exact Or.inl ⟨rfl, rfl⟩

theorem rank_start_leading_le (a b : Timeline) :
    rank (leading a b).start? ≤ rank (trailing a b).start? := by
  unfold leading trailing
  split
  · rename_i hbefore
    exact le_of_lt (precedes_iff.mp hbefore)
  · rename_i hnot
    exact not_precedes_iff.mp (Bool.not_eq_true _ ▸ hnot)

/-- A cut keeps every clock after it. -/
theorem mem_clocks_after_of_lt {t : Timeline} {at? : Option Instant} {c : Instant}
    (hc : c ∈ t.clocks) (hlate : rank at? < c) : c ∈ (t.after at?).clocks := by
  obtain ⟨e, he, hclock⟩ := Event.mem_clocks.mp hc
  have hafter : e.isAfter at? = true :=
    Event.isAfter_iff.mpr ⟨c, (Event.clock?_eq_some_iff.mp hclock).2, hlate⟩
  refine Event.mem_clocks.mpr ⟨e, ?_, hclock⟩
  rw [← List.takeWhile_append_dropWhile (p := fun e => !e.isAfter at?) (l := t.events)] at he
  rcases List.mem_append.mp he with hdropped | hkept
  · have hbefore := List.mem_takeWhile_imp hdropped
    simp [hafter] at hbefore
  · exact hkept

theorem finish_mem_clocks {t : Timeline} {c : Instant} (h : t.finish? = some c) :
    c ∈ t.clocks := by
  rw [finish?_eq_getLast?] at h
  exact List.mem_of_getLast? h

theorem start_mem_clocks {t : Timeline} {c : Instant} (h : t.start? = some c) :
    c ∈ t.clocks := by
  rw [start?_eq_head?] at h
  exact List.mem_of_head? h

/-- A timeline that outlasts the cut keeps its last clock. -/
theorem finish?_after {later : Timeline} {at? : Option Instant}
    (outlasted : rank at? < rank later.finish?) : (later.after at?).finish? = later.finish? := by
  have hclocks : later.clocks =
      Event.clocks (later.events.takeWhile fun e => !e.isAfter at?) ++
        (later.after at?).clocks := by
    rw [clocks, clocks, after, derive, ← Event.clocks_append, List.takeWhile_append_dropWhile]
  cases hfinish : later.finish? with
  | none => simp [hfinish] at outlasted
  | some finish =>
      rw [hfinish] at outlasted
      have hkept := mem_clocks_after_of_lt (finish_mem_clocks hfinish) outlasted
      have hlast : (later.after at?).clocks.getLast?.isSome = true :=
        List.getLast?_isSome.mpr (List.ne_nil_of_mem hkept)
      rw [← hfinish, finish?_eq_getLast?, finish?_eq_getLast?, hclocks, List.getLast?_append,
        Option.or_of_isSome hlast]

theorem after_nonempty {later : Timeline} {at? : Option Instant}
    (outlasted : rank at? < rank later.finish?) : (later.after at?).isEmpty = false := by
  rw [← Bool.not_eq_true, isEmpty_iff]
  intro hempty
  have hfinish := finish?_after outlasted
  rw [finish?_eq_getLast?, clocks, hempty] at hfinish
  rw [← hfinish] at outlasted
  simp [Event.clocks] at outlasted

theorem reconciles (earlier later : Timeline) :
    Reconciles earlier later ((reconcile earlier later).1.timeline earlier later) := by
  unfold reconcile
  dsimp only
  split
  · rename_i hsame
    have same : SameStart earlier later := by simpa [SameStart] using hsame
    split
    · rename_i hlater
      exact .superseded same (precedes_iff.mp hlater)
    · rename_i hlater
      exact .kept same (not_precedes_iff.mp (Bool.not_eq_true _ ▸ hlater))
  · rename_i hsame
    have apart : ¬ SameStart earlier later := by simpa [SameStart] using hsame
    split
    · rename_i hcontained
      obtain ⟨set, lasts⟩ : earlier.finish?.isSome = true ∧
          precedes earlier.finish? later.finish? = false := by simpa using hcontained
      exact .contained apart set (not_precedes_iff.mp lasts)
    · rename_i hcontained
      have outlasted (set : earlier.finish?.isSome = true) :
          rank earlier.finish? < rank later.finish? := by
        apply precedes_iff.mp
        simpa [set] using hcontained
      split
      · rename_i hmeets
        have meets := precedes_iff.mp hmeets
        have set : earlier.finish?.isSome = true := by
          cases hfinish : earlier.finish? with
          | none => simp [hfinish] at meets
          | some finish => rfl
        simp only [after_nonempty (outlasted set)]
        exact .cut apart (outlasted set) meets
      · rename_i hmeets
        exact .appended apart outlasted (not_precedes_iff.mp (Bool.not_eq_true _ ▸ hmeets))

theorem timeline_swap (a b : Timeline) (answer : Merged) :
    answer.swap.timeline a b = answer.timeline b a := by
  cases answer <;> rfl

/-! ### The whole merge -/

section

variable {a b : Timeline}

theorem merged_of_isEmpty_left (b : Timeline) (ha : a.isEmpty = true) :
    merged a b = (.second, []) := by
  simp [merged, ha]

theorem merged_of_isEmpty_right (ha : a.isEmpty = false) (hb : b.isEmpty = true) :
    merged a b = (.first, []) := by
  simp [merged, ha, hb]

/-- The second timeline starts strictly earlier and goes first. -/
theorem merged_of_trails (ha : a.isEmpty = false) (hb : b.isEmpty = false)
    (h : precedes b.start? a.start? = true) :
    merged a b = ((reconcile b a).1.swap, (reconcile b a).2) := by
  simp [merged, ha, hb, h]

theorem merged_of_leads (ha : a.isEmpty = false) (hb : b.isEmpty = false)
    (h : precedes b.start? a.start? = false) : merged a b = reconcile a b := by
  simp [merged, ha, hb, h]

theorem merge_of_isEmpty_left (b : Timeline) (ha : a.isEmpty = true) : a.merge b = b := by
  rw [merge, merged_of_isEmpty_left b ha]
  rfl

theorem merge_of_isEmpty_right (ha : a.isEmpty = false) (hb : b.isEmpty = true) :
    a.merge b = a := by
  rw [merge, merged_of_isEmpty_right ha hb]
  rfl

theorem merge_reconciles (ha : a.isEmpty = false) (hb : b.isEmpty = false) :
    Reconciles (leading a b) (trailing a b) (a.merge b) := by
  unfold leading trailing
  split
  · rename_i htrails
    rw [merge, merged_of_trails ha hb htrails, timeline_swap]
    exact reconciles b a
  · rename_i hleads
    rw [merge, merged_of_leads ha hb (Bool.not_eq_true _ ▸ hleads)]
    exact reconciles a b

end

end NodeHistory.Timeline

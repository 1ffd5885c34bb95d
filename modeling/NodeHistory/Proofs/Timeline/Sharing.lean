import NodeHistory.Proofs.Timeline.Contents
import NodeHistory.Proofs.Timeline.RepeatRuns

/-!
What timelines held by reference share. Several of them may have entries in common, and yet nothing
done to one shows in another. Each call leaves every event and every timeline as it is but the one
that it adds to, and so does each run of calls, whoever holds the references. A timeline that a
merge or a selection makes is new; a merge that keeps one of its timelines makes none.
-/

namespace NodeHistory.Store

open Timeline Event

variable {s s' : Store}

inductive Call where
  /-- Stores an event of the caller's. -/
  | give (event : Event)
  | build (held : Holding)
  | add (timeline : Ref) (given : EventRef)
  | select (selection : Selection)
  | merge (a b : Ref)

/-- The timeline that a call adds to. -/
def Call.target? : Call → Option Ref
  | add timeline _ => some timeline
  | give _ | build _ | select _ | merge _ _ => none

/-- A call that is refused or names what the store does not hold leaves the store as it is. -/
def perform (s : Store) : Call → Store
  | .give event => (s.give event).2
  | .build held => ((s.put? held).map (·.2)).getD s
  | .add timeline given =>
    match s.add timeline given with
    | some (.ok s') => s'
    | some (.error _) | none => s
  | .select selection => ((s.select selection).map (·.2)).getD s
  | .merge a b => ((s.merge a b).map (·.2.1)).getD s

def run (s : Store) (calls : List Call) : Store := calls.foldl perform s

def targets (calls : List Call) : List Ref := calls.filterMap Call.target?

theorem perform_preserves (s : Store) (call : Call) :
    Preserves call.target?.toList s (s.perform call) := by
  cases call with
  | give event => exact preserves_hold s [event]
  | build held =>
      change Preserves [] s (((s.put? held).map (·.2)).getD s)
      cases hput : s.put? held with
      | none => exact .refl s
      | some made => exact preserves_put? hput
  | add timeline given =>
      simp only [perform]
      split
      · rename_i hadd
        exact preserves_add hadd
      · exact .refl s
      · exact .refl s
  | select selection =>
      change Preserves [] s (((s.select selection).map (·.2)).getD s)
      cases hselect : s.select selection with
      | none => exact .refl s
      | some made => exact preserves_select hselect
  | merge a b =>
      change Preserves [] s (((s.merge a b).map (·.2.1)).getD s)
      cases hmerge : s.merge a b with
      | none => exact .refl s
      | some made => exact preserves_merge hmerge

/-- Whatever is done, events stay as they are, and timelines that nobody adds to as well. -/
theorem run_preserves (s : Store) (calls : List Call) :
    Preserves (targets calls) s (s.run calls) := by
  induction calls generalizing s with
  | nil => exact .refl s
  | cons call later ih =>
      have htargets : targets (call :: later) = call.target?.toList ++ targets later := by
        cases htarget : call.target? <;> simp [targets, htarget]
      exact htargets ▸ (perform_preserves s call).trans (ih (s.perform call))

/-- What is done from the second store on shows in no timeline of the first but those that are
added to by name, and in no event that has been given, were it in the meantime. -/
structure Isolated (s s' : Store) : Prop where
  timelines : ∀ calls, ∀ other ∉ targets calls, ∀ t, s.get? other = some t →
    (s'.run calls).get? other = some t
  events : ∀ calls entry e, s.event? entry = some e → (s'.run calls).event? entry = some e
  given : ∀ before after entry e, (s'.run before).event? entry = some e →
    (s'.run (before ++ after)).event? entry = some e

theorem Preserves.isolated (h : Preserves [] s s') : Isolated s s' where
  timelines calls := (h.trans (run_preserves s' calls)).timelines
  events calls := (h.trans (run_preserves s' calls)).events
  given before after := by
    rw [run, run, List.foldl_append]
    exact (run_preserves (s'.run before) after).events

/-- A merge answers with a new timeline exactly if neither of its two is empty and the one that
leads tells no clock, or does not start with the other and ends before it; else it answers with one
of the two. Slices, joints, derived and cut timelines are always new. No call changes what is there,
and what is added to a new timeline shows nowhere else. -/
theorem new_timelines_isolated (s : Store) :
    (∀ a b t u, s.get? a = some t → s.get? b = some u →
      ∃ ref s' notices, s.merge a b = some (ref, s', notices) ∧
        s'.get? ref = some (t.merge u) ∧ Preserves [] s s' ∧
        (ref = a ∨ ref = b ∨ s.get? ref = none) ∧
        (s.get? ref = none ↔
          t.isEmpty = false ∧ u.isEmpty = false ∧ Joins (leading t u) (trailing t u)) ∧
        Isolated s s') ∧
    ∀ selection t, s.outcome? selection = some t →
      ∃ ref s', s.select selection = some (ref, s') ∧ Creates s t ref s' ∧
        (∃ source, s.get? selection.left = some source ∧ t.rule = source.rule) ∧ Isolated s s' := by
  constructor
  · intro a b t u ha hb
    by_cases h : t.isEmpty = false ∧ u.isEmpty = false ∧ Joins (leading t u) (trailing t u)
    · obtain ⟨ref, s', notices, hmerge, hcreates⟩ := merge_creates ha hb h.1 h.2.1 h.2.2
      exact ⟨ref, s', notices, hmerge, hcreates.contents, hcreates.preserves,
        .inr (.inr hcreates.new), iff_of_true hcreates.new h, hcreates.preserves.isolated⟩
    · obtain ⟨ref, notices, hmerge, hsame, hget⟩ := merge_kept ha hb h
      have hold : s.get? ref ≠ none := by simp [hget]
      have hsides : ref = a ∨ ref = b ∨ s.get? ref = none := hsame.imp_right .inl
      exact ⟨ref, s, notices, hmerge, hget, .refl s, hsides, iff_of_false hold h,
        Preserves.isolated (.refl s)⟩
  · intro selection t h
    obtain ⟨ref, s', hselect, hcreates⟩ := select_creates h
    exact ⟨ref, s', hselect, hcreates, rule_of_outcome? h, hcreates.preserves.isolated⟩

/-- A repetition that goes on over the seam is counted in the join and not in the timeline whose
event counts it. -/
theorem fold_across_seam_stays_in_join :
    let boot : Timeline := { events := [{ bare "/logs/n/error.log" 1 with message := "boot" }] }
    let retries : Timeline :=
      { events := [bare "/logs/n/error.log" 5, bare "/logs/n/error.log" 6] }
    let s := ((empty.alloc boot).2.alloc retries).2
    ∃ ref s' notices, s.merge 1 0 = some (ref, s', notices) ∧ s.get? ref = none ∧
      let later := s'.run [.give (bare "/logs/n/error.log" 7), .add ref 4]
      (later.get? ref).map (·.events.map (·.count)) = some [1, 2, 1] ∧
        later.get? 0 = some boot ∧ later.get? 1 = some retries := by
  intro boot retries s
  obtain ⟨ref, s', notices, hmerge, -, -, -, hnew, hisolated⟩ :=
    (new_timelines_isolated s).1 1 0 retries boot rfl rfl
  have hjoins : Joins (leading retries boot) (trailing retries boot) :=
    .inr ⟨by decide, Time.precedes_iff.mp (by decide)⟩
  have habsent : s.get? ref = none := hnew.mpr ⟨rfl, rfl, hjoins⟩
  have hcounts : ((s.merge 1 0).bind fun made =>
      ((made.2.1.run [.give (bare "/logs/n/error.log" 7), .add made.1 4]).get? made.1).map
        (·.events.map (·.count))) = some [1, 2, 1] := by decide +kernel
  rw [hmerge] at hcounts
  have hapart : ∀ other, (s.get? other).isSome = true →
      other ∉ targets [.give (bare "/logs/n/error.log" 7), .add ref 4] := by
    intro other hthere hmem
    have hsame : ref = other := by simpa [targets, Call.target?] using hmem
    rw [← hsame, habsent] at hthere
    cases hthere
  exact ⟨ref, s', notices, hmerge, habsent, hcounts,
    hisolated.timelines _ 0 (hapart 0 rfl) boot rfl,
    hisolated.timelines _ 1 (hapart 1 rfl) retries rfl⟩

end NodeHistory.Store

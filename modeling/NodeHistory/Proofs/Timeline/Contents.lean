import NodeHistory.Proofs.Timeline.Joining
import NodeHistory.Timeline.Store

/-!
The contents of timelines held by reference. Every call on a store comes to what the same call on
plain timelines comes to: a selection, a merge and an addition leave at their reference the timeline
that slicing, joining, cutting, merging or adding gives. Beside it each leaves all other timelines
and all events as they are (`Preserves`).
-/

namespace NodeHistory.Store

open Timeline Event

variable {s s' : Store} {entries more : List EventRef} {events other : List Event}

/-! ### Reading entries -/

/-- The entries are references to these events. -/
def Reads (s : Store) (entries : List EventRef) (events : List Event) : Prop :=
  entries.map s.event? = events.map some

theorem exists_event? {entry : EventRef} (h : entry < s.events.length) :
    ∃ e, s.event? entry = some e :=
  ⟨s.events[entry], List.getElem?_eq_getElem h⟩

theorem reads_read (known : ∀ entry ∈ entries, entry < s.events.length) :
    Reads s entries (s.read entries) := by
  induction entries with
  | nil => rfl
  | cons entry rest ih =>
      obtain ⟨e, hentry⟩ := exists_event? (known entry List.mem_cons_self)
      have hrest := ih fun e he => known e (List.mem_cons_of_mem _ he)
      rw [Reads, read, List.filterMap_cons_some hentry, List.map_cons, List.map_cons, hentry]
      exact congrArg _ hrest

namespace Reads

theorem read_eq (h : Reads s entries events) : s.read entries = events := by
  have hmap : (entries.map s.event?).filterMap id = events := by
    rw [show entries.map s.event? = events.map some from h]
    simp
  rwa [List.filterMap_map] at hmap

theorem known (h : Reads s entries events) : ∀ entry ∈ entries, entry < s.events.length := by
  intro entry hentry
  have hmem : s.event? entry ∈ events.map some :=
    (show entries.map s.event? = events.map some from h) ▸ List.mem_map_of_mem hentry
  obtain ⟨e, -, he⟩ := List.mem_map.mp hmem
  exact (List.getElem?_eq_some_iff.mp he.symm).1

theorem length_eq (h : Reads s entries events) : entries.length = events.length := by
  simpa using congrArg List.length h

theorem append (h : Reads s entries events) (hmore : Reads s more other) :
    Reads s (entries ++ more) (events ++ other) := by
  unfold Reads at h hmore ⊢
  rw [List.map_append, List.map_append, h, hmore]

theorem drop (h : Reads s entries events) (n : Nat) : Reads s (entries.drop n) (events.drop n) := by
  unfold Reads at h ⊢
  rw [List.map_drop, List.map_drop, h]

theorem dropLast (h : Reads s entries events) : Reads s entries.dropLast events.dropLast := by
  unfold Reads at h ⊢
  rw [List.map_dropLast, List.map_dropLast, h]

theorem dropWhile (h : Reads s entries events) (test : Event → Bool) :
    Reads s (entries.dropWhile fun entry => !(s.event? entry).any test)
      (events.dropWhile fun e => !test e) := by
  unfold Reads at h ⊢
  calc (entries.dropWhile fun entry => !(s.event? entry).any test).map s.event?
      = (entries.map s.event?).dropWhile fun e : Option Event => !e.any test :=
        (List.dropWhile_map (p := fun e : Option Event => !e.any test)).symm
    _ = (events.map some).dropWhile fun e : Option Event => !e.any test := by rw [h]
    _ = (events.dropWhile fun e => !test e).map some :=
        List.dropWhile_map (p := fun e : Option Event => !e.any test)

theorem getElem? (h : Reads s entries events) (n : Nat) :
    entries[n]?.map s.event? = events[n]?.map some := by
  rw [← List.getElem?_map, ← List.getElem?_map]
  exact congrArg (·[n]?) h

theorem choose (h : Reads s entries events) (positions : List Nat) :
    Reads s (positions.filterMap fun k => entries[k]?)
      (positions.filterMap fun k => events[k]?) := by
  unfold Reads
  rw [List.map_filterMap, List.map_filterMap]
  exact List.filterMap_congr fun k _ => h.getElem? k

/-- More events take nothing away from what was read. -/
theorem mono (h : Reads s entries events)
    (hevents : ∀ entry e, s.event? entry = some e → s'.event? entry = some e) :
    Reads s' entries events := by
  have hmap : entries.map s'.event? = entries.map s.event? := by
    refine List.map_congr_left fun entry hentry => ?_
    obtain ⟨e, he⟩ := exists_event? (h.known entry hentry)
    rw [he]
    exact hevents entry e he
  exact hmap.trans h

end Reads

theorem get?_eq_some_iff {ref : Ref} {t : Timeline} :
    s.get? ref = some t ↔
      ∃ held, s.timelines[ref]? = some held ∧ Reads s held.entries t.events ∧
        held.rule = t.rule := by
  constructor
  · intro h
    obtain ⟨held, hheld, rfl⟩ := Option.map_eq_some_iff.mp h
    exact ⟨held, hheld, reads_read (s.known held (List.mem_of_getElem? hheld)), rfl⟩
  · rintro ⟨held, hheld, hreads, hrule⟩
    rw [get?, hheld, Option.map_some, hreads.read_eq, hrule]

/-! ### What stays as it is -/

/-- Every event is still there as it was, and so is every timeline but those named. -/
structure Preserves (changed : List Ref) (s s' : Store) : Prop where
  events : ∀ entry e, s.event? entry = some e → s'.event? entry = some e
  timelines : ∀ ref ∉ changed, ∀ t, s.get? ref = some t → s'.get? ref = some t

variable {changed further : List Ref} {s'' : Store}

theorem Preserves.refl (s : Store) : Preserves changed s s := ⟨fun _ _ h => h, fun _ _ _ h => h⟩

theorem Preserves.trans (h : Preserves changed s s') (h' : Preserves further s' s'') :
    Preserves (changed ++ further) s s'' where
  events entry e he := h'.events entry e (h.events entry e he)
  timelines ref href t ht := by
    rw [List.mem_append, not_or] at href
    exact h'.timelines ref href.2 t (h.timelines ref href.1 t ht)

theorem preserves_of_held (hevents : s.events <+: s'.events)
    (hheld : ∀ ref ∉ changed, ∀ held, s.timelines[ref]? = some held →
      s'.timelines[ref]? = some held) : Preserves changed s s' := by
  have hkept : ∀ entry e, s.event? entry = some e → s'.event? entry = some e := by
    intro entry e he
    obtain ⟨hlt, rfl⟩ := List.getElem?_eq_some_iff.mp he
    exact List.prefix_iff_getElem?.mp hevents entry hlt
  refine ⟨hkept, fun ref href t ht => ?_⟩
  obtain ⟨held, hget, hreads, hrule⟩ := get?_eq_some_iff.mp ht
  exact get?_eq_some_iff.mpr ⟨held, hheld ref href held hget, hreads.mono hkept, hrule⟩

theorem preserves_hold (s : Store) (events : List Event) : Preserves [] s (s.hold events).2 :=
  preserves_of_held (List.prefix_append _ _) fun _ _ _ h => h

theorem reads_hold (s : Store) (events : List Event) :
    Reads (s.hold events).2 (s.hold events).1 events := by
  refine List.ext_getElem (by simp [hold]) fun n hn _ => ?_
  simp [hold, event?, List.getElem?_append_right]

theorem preserves_set? {ref : Ref} {held : Holding} (h : s.set? ref held = some s') :
    Preserves [ref] s s' := by
  unfold set? at h
  split at h
  · obtain rfl := Option.some.inj h
    refine preserves_of_held List.prefix_rfl fun other hother held hheld => ?_
    have hne : ref ≠ other := fun heq => hother (heq ▸ List.mem_singleton_self ref)
    exact (List.getElem?_set_ne hne).trans hheld
  · cases h

/-! ### New timelines -/

/-- The reference is new, the timeline is found under it, and all else is as it was. -/
structure Creates (s : Store) (t : Timeline) (ref : Ref) (s' : Store) : Prop where
  new : s.get? ref = none
  contents : s'.get? ref = some t
  preserves : Preserves [] s s'

theorem Creates.after_hold {t : Timeline} {ref : Ref} (h : Creates (s.hold events).2 t ref s') :
    Creates s t ref s' where
  new := by
    cases hold : s.get? ref with
    | none => rfl
    | some u =>
        have hkept := (preserves_hold s events).timelines ref List.not_mem_nil u hold
        exact absurd (hkept.symm.trans h.new) (Option.some_ne_none u)
  contents := h.contents
  preserves := (preserves_hold s events).trans h.preserves

theorem put?_creates (held : Holding) (h : Reads s held.entries events) :
    ∃ ref s', s.put? held = some (ref, s') ∧ Creates s { events, rule := held.rule } ref s' := by
  have hpreserves : Preserves [] s (s.put held h.known).2 :=
    preserves_of_held List.prefix_rfl fun ref _ other hother => by
      rw [put, List.getElem?_append_left (List.getElem?_eq_some_iff.mp hother).1, hother]
  refine ⟨_, _, dif_pos h.known, ⟨?_, ?_, hpreserves⟩⟩
  · simp [get?]
  · refine get?_eq_some_iff.mpr ⟨held, ?_, h.mono hpreserves.events, rfl⟩
    simp

theorem preserves_put? {held : Holding} {ref : Ref} (h : s.put? held = some (ref, s')) :
    Preserves [] s s' := by
  have hknown : ∀ entry ∈ held.entries, entry < s.events.length := by
    by_contra hunknown
    simp [put?, hunknown] at h
  obtain ⟨_, _, hput, hcreates⟩ := put?_creates held (reads_read hknown)
  obtain ⟨rfl, rfl⟩ := Prod.mk.inj (Option.some.inj (hput.symm.trans h))
  exact hcreates.preserves

/-- What the selected timeline holds, told by the contents of the timelines it is selected from. -/
def outcome? (s : Store) : Selection → Option Timeline
  | .slice left slice => (s.get? left).bind (·.slice? slice)
  | .concat left right => (s.get? left).bind fun t => (s.get? right).map t.concat
  | .derive left entries =>
    if ∀ entry ∈ entries, entry < s.events.length then
      (s.get? left).map (·.derive (s.read entries))
    else none
  | .cut left at? => (s.get? left).map (·.after at?)

theorem chosen?_reads {selection : Selection} {t : Timeline} (h : s.outcome? selection = some t) :
    ∃ held entries, s.timelines[selection.left]? = some held ∧ held.rule = t.rule ∧
      s.chosen? selection = some entries ∧ Reads s entries t.events := by
  cases selection with
  | slice left slice =>
      obtain ⟨u, hu, hslice⟩ := Option.bind_eq_some_iff.mp h
      obtain ⟨held, hheld, hreads, hrule⟩ := get?_eq_some_iff.mp hu
      unfold slice? at hslice
      split at hslice
      · cases hslice
      · rename_i hstep
        obtain rfl := Option.some.inj hslice
        refine ⟨held, _, hheld, hrule, ?_, hreads.choose (slice.positions u.events.length)⟩
        simp [chosen?, hheld, hstep, hreads.length_eq]
  | concat left right =>
      obtain ⟨u, hu, hconcat⟩ := Option.bind_eq_some_iff.mp h
      obtain ⟨v, hv, rfl⟩ := Option.map_eq_some_iff.mp hconcat
      obtain ⟨front, hfront, hreads, hrule⟩ := get?_eq_some_iff.mp hu
      obtain ⟨back, hback, hmore, -⟩ := get?_eq_some_iff.mp hv
      refine ⟨front, _, hfront, hrule, ?_, hreads.append hmore⟩
      simp [chosen?, hfront, hback]
  | derive left entries =>
      simp only [outcome?] at h
      split at h
      · rename_i hknown
        obtain ⟨u, hu, rfl⟩ := Option.map_eq_some_iff.mp h
        obtain ⟨held, hheld, -, hrule⟩ := get?_eq_some_iff.mp hu
        exact ⟨held, entries, hheld, hrule, rfl, reads_read hknown⟩
      · cases h
  | cut left at? =>
      obtain ⟨u, hu, rfl⟩ := Option.map_eq_some_iff.mp h
      obtain ⟨held, hheld, hreads, hrule⟩ := get?_eq_some_iff.mp hu
      refine ⟨held, _, hheld, hrule, ?_, hreads.dropWhile (·.isAfter at?)⟩
      simp [chosen?, hheld]

theorem rule_of_outcome? {selection : Selection} {t : Timeline}
    (h : s.outcome? selection = some t) :
    ∃ source, s.get? selection.left = some source ∧ t.rule = source.rule := by
  obtain ⟨held, _, hheld, hrule, -, -⟩ := chosen?_reads h
  exact ⟨_, Option.map_eq_some_iff.mpr ⟨held, hheld, rfl⟩, hrule.symm⟩

theorem select_creates {selection : Selection} {t : Timeline} (h : s.outcome? selection = some t) :
    ∃ ref s', s.select selection = some (ref, s') ∧ Creates s t ref s' := by
  obtain ⟨held, entries, hheld, hrule, hchosen, hreads⟩ := chosen?_reads h
  obtain ⟨ref, s', hput, hcreates⟩ := put?_creates { held with entries } hreads
  refine ⟨ref, s', ?_, ?_⟩
  · simp [select, hheld, hchosen, hput]
  · have ht : { events := t.events, rule := held.rule } = t := by rw [hrule]
    exact ht ▸ hcreates

/-! ### Merging -/

theorem join_creates {earlier later : Ref} {front back rest : Timeline}
    (hfront : s.get? earlier = some front) (hback : s.get? later = some back)
    (hsuffix : rest.events <:+ back.events) (hfrontFilled : front.events ≠ [])
    (hrestFilled : rest.events ≠ []) :
    ∃ ref s', s.join earlier later (front.join rest) = some (ref, s') ∧
      Creates s (front.join rest) ref s' := by
  obtain ⟨held, hheld, hreads, hrule⟩ := get?_eq_some_iff.mp hfront
  obtain ⟨other, hother, hmore, -⟩ := get?_eq_some_iff.mp hback
  obtain ⟨last, hlast, hevents⟩ := events_join_snoc hfrontFilled hrestFilled
  have hdropped : held.entries.length + other.entries.length - (front.join rest).events.length =
      back.events.length - rest.events.length := by
    have hrestLength := List.length_pos_iff.mpr hrestFilled
    rw [hevents, hreads.length_eq, hmore.length_eq]
    simp only [List.length_append, List.length_dropLast, List.length_singleton]
    omega
  have hrest := hmore.drop (back.events.length - rest.events.length)
  rw [← List.suffix_iff_eq_drop.mp hsuffix] at hrest
  have hkept := (hreads.append hrest).dropLast.mono (preserves_hold s [last]).events
  have hall := hkept.append (reads_hold s [last])
  rw [← hevents] at hall
  obtain ⟨ref, s', hput, hcreates⟩ := put?_creates { held with entries := _ } hall
  refine ⟨ref, s', ?_, ?_⟩
  · simp only [join, hheld, hother, Option.bind_eq_bind, Option.bind_some, hlast,
      Option.toList_some, hdropped]
    exact hput
  · have hsame : { events := (front.join rest).events, rule := held.rule } = front.join rest := by
      rw [hrule, ← rule_join front rest]
    exact hsame ▸ hcreates.after_hold

variable {a b : Ref} {t u : Timeline}

theorem merge_kept (ha : s.get? a = some t) (hb : s.get? b = some u)
    (h : ¬ (t.isEmpty = false ∧ u.isEmpty = false ∧ Joins (leading t u) (trailing t u))) :
    ∃ ref notices, s.merge a b = some (ref, s, notices) ∧ (ref = a ∨ ref = b) ∧
      s.get? ref = some (t.merge u) := by
  cases hmerged : t.merged u with
  | mk answer notices =>
      rcases merged_kept h with hfirst | hsecond
      · obtain rfl : answer = .first := by rw [← hfirst, hmerged]
        refine ⟨a, notices, ?_, .inl rfl, ?_⟩
        · simp [merge, ha, hb, hmerged]
        · rw [ha, Timeline.merge, hmerged]
          rfl
      · obtain rfl : answer = .second := by rw [← hsecond, hmerged]
        refine ⟨b, notices, ?_, .inr rfl, ?_⟩
        · simp [merge, ha, hb, hmerged]
        · rw [hb, Timeline.merge, hmerged]
          rfl

theorem merge_creates (ha : s.get? a = some t) (hb : s.get? b = some u)
    (ht : t.isEmpty = false) (hu : u.isEmpty = false) (h : Joins (leading t u) (trailing t u)) :
    ∃ ref s' notices, s.merge a b = some (ref, s', notices) ∧ Creates s (t.merge u) ref s' := by
  have hfilled := filled_leading_trailing_iff.mpr ⟨ht, hu⟩
  have hrest : (remainder (leading t u) (trailing t u)).events ≠ [] := by
    have htrailing : (trailing t u).isEmpty = false := by simpa [isEmpty] using hfilled.2
    simpa [isEmpty] using h.remainder_filled htrailing
  have hsides : ∃ earlier later,
      (if Time.precedes u.start? t.start? then (b, a) else (a, b)) = (earlier, later) ∧
        s.get? earlier = some (leading t u) ∧ s.get? later = some (trailing t u) := by
    unfold leading trailing
    split
    · exact ⟨b, a, rfl, hb, ha⟩
    · exact ⟨a, b, rfl, ha, hb⟩
  obtain ⟨earlier, later, hsides, hfront, hback⟩ := hsides
  obtain ⟨ref, s', hjoin, hcreates⟩ :=
    join_creates hfront hback (remainder_suffix _ _) hfilled.1 hrest
  have hjoined := merged_joined ht hu h
  cases hmerged : t.merged u with
  | mk answer notices =>
      obtain rfl : answer = _ := by simpa [hmerged] using hjoined
      refine ⟨ref, s', notices, ?_, ?_⟩
      · simp [merge, ha, hb, hmerged, hsides, hjoin]
      · rw [Timeline.merge, hmerged]
        exact hcreates

theorem preserves_merge {ref : Ref} {notices : List MergeNotice}
    (h : s.merge a b = some (ref, s', notices)) : Preserves [] s s' := by
  obtain ⟨t, ht, hrest⟩ := Option.bind_eq_some_iff.mp h
  obtain ⟨u, hu, -⟩ := Option.bind_eq_some_iff.mp hrest
  by_cases hjoined : t.isEmpty = false ∧ u.isEmpty = false ∧ Joins (leading t u) (trailing t u)
  · obtain ⟨_, _, _, hmerge, hcreates⟩ := merge_creates ht hu hjoined.1 hjoined.2.1 hjoined.2.2
    obtain ⟨rfl, rfl, rfl⟩ : ref = _ ∧ s' = _ ∧ notices = _ := by
      simpa using h.symm.trans hmerge
    exact hcreates.preserves
  · obtain ⟨_, _, hmerge, -⟩ := merge_kept ht hu hjoined
    obtain ⟨rfl, rfl, rfl⟩ : ref = _ ∧ s' = _ ∧ notices = _ := by
      simpa using h.symm.trans hmerge
    exact .refl _

theorem preserves_select {selection : Selection} {ref : Ref}
    (h : s.select selection = some (ref, s')) : Preserves [] s s' := by
  obtain ⟨held, -, hrest⟩ := Option.bind_eq_some_iff.mp h
  obtain ⟨entries, -, hput⟩ := Option.bind_eq_some_iff.mp hrest
  exact preserves_put? hput

/-! ### Adding -/

variable {ref : Ref} {given : EventRef} {held : Holding} {event : Event}

theorem preserves_rewrite (h : (s.rewrite ref held entries events).map Except.ok =
    some (Except.ok s' : Except Incomparable Store)) : Preserves [ref] s s' := by
  obtain ⟨_, hrewrite, hsame⟩ := Option.map_eq_some_iff.mp h
  cases hsame
  exact (preserves_hold s events).trans (preserves_set? hrewrite)

theorem preserves_add (h : s.add ref given = some (.ok s')) : Preserves [ref] s s' := by
  obtain ⟨held, -, h⟩ := Option.bind_eq_some_iff.mp h
  obtain ⟨event, -, h⟩ := Option.bind_eq_some_iff.mp h
  split at h
  · obtain ⟨latest, -, h⟩ := Option.bind_eq_some_iff.mp h
    obtain ⟨counted, -, h⟩ := Option.bind_eq_some_iff.mp h
    split at h
    · cases h
    · exact preserves_rewrite h
    · exact preserves_rewrite h
  · exact preserves_rewrite h

theorem get?_set? (new : Holding) (hheld : s.timelines[ref]? = some held)
    (h : Reads s new.entries events) : ∃ s', s.set? ref new = some s' ∧
      s'.get? ref = some { events, rule := new.rule } := by
  refine ⟨_, dif_pos h.known, get?_eq_some_iff.mpr ⟨new, ?_, h.mono fun _ _ he => he, rfl⟩⟩
  exact List.getElem?_set_self (List.getElem?_eq_some_iff.mp hheld).1

theorem get?_rewrite (hheld : s.timelines[ref]? = some held) (h : Reads s entries events)
    (fresh : List Event) : ∃ s', s.rewrite ref held entries fresh = some s' ∧
      s'.get? ref = some { events := events ++ fresh, rule := held.rule } :=
  get?_set? _ hheld ((h.mono (preserves_hold s fresh).events).append (reads_hold s fresh))

/-- Adding in place is adding to the contents. -/
theorem get?_add (ht : s.get? ref = some t) (hevent : s.event? given = some event) :
    (s.add ref given).map (·.map (·.get? ref)) = some ((t.add event).map some) := by
  obtain ⟨held, hheld, hreads, hrule⟩ := get?_eq_some_iff.mp ht
  obtain ⟨appended, happend, hget⟩ := get?_rewrite hheld hreads [event]
  rw [hrule] at hget
  have hreversed : held.entries.reverse.map s.event? = t.events.reverse.map some := by
    rw [List.map_reverse, List.map_reverse, hreads]
  -- Entries and events run out together, so both definitions take the same of their branches.
  match hevents : t.events.reverse with
  | [] =>
      rw [hevents, List.map_nil, List.map_eq_nil_iff] at hreversed
      simp [add, hheld, hevent, hreversed, happend, Timeline.add, hevents, hget, Except.map, derive]
  | [only] =>
      rw [hevents] at hreversed
      obtain ⟨entry, _, hentries, -, hnil⟩ := List.map_eq_cons_iff.mp hreversed
      obtain rfl := List.map_eq_nil_iff.mp hnil
      simp [add, hheld, hevent, hentries, happend, Timeline.add, hevents, hget, Except.map, derive]
  | latest :: counted :: before =>
      rw [hevents] at hreversed
      obtain ⟨last, _, hentries, hlast, hrest⟩ := List.map_eq_cons_iff.mp hreversed
      obtain ⟨second, earlier, rfl, hsecond, hbefore⟩ := List.map_eq_cons_iff.mp hrest
      have hkept : Reads s earlier.reverse before.reverse := by
        rw [Reads, List.map_reverse, List.map_reverse, hbefore]
      obtain ⟨folded, hfold, hfolded⟩ := get?_rewrite hheld hkept [counted.repeated, event]
      rw [hrule] at hfolded
      simp only [add, hheld, hevent, hentries, hlast, hsecond, hrule, hfold, happend,
        Option.bind_eq_bind, Option.bind_some, Timeline.add, hevents]
      cases t.rule.repeats event counted latest with
      | error refusal => rfl
      | ok repeated =>
          cases repeated with
          | true => exact congrArg (fun u => some (Except.ok u)) hfolded
          | false => exact congrArg (fun u => some (Except.ok u)) hget

end NodeHistory.Store

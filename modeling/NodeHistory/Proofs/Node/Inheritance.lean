import Mathlib.Data.List.Basic
import NodeHistory.Node.Name

/-!
What inheriting does to the identity in force, which is the last entry of an identity list. Joining
two lists keeps every value where it first occurs, so a value that the earlier list has told before
others does not come last again, although it is the last one that the later list tells. Main
statement: the identity in force survives exactly where no other value occurs for the first time
behind it, and so does the name under which a node with names of its own is shown.
-/

namespace NodeHistory.Provenance

open Time

/-- Of all the values it is the last one to occur for the first time. -/
def NewestAmong (x : String) (values : List String) : Prop :=
  ∃ before after, values = before ++ x :: after ∧ x ∉ before ∧ ∀ y ∈ after, y ∈ before ∨ y = x

theorem eraseDups_append_cons {before : List String} {x : String} (after : List String)
    (fresh : x ∉ before) :
    (before ++ x :: after).eraseDups =
      before.eraseDups ++ x :: (after.removeAll (before ++ [x])).eraseDups := by
  have hsplit : before ++ x :: after = (before ++ [x]) ++ after := by simp
  have hsingle : [x].removeAll before = [x] := by simpa [List.removeAll] using fresh
  rw [hsplit, List.eraseDups_append, List.eraseDups_append, hsingle, List.append_assoc]
  rfl

private theorem removeAll_eq_nil_iff {values known : List String} :
    values.removeAll known = [] ↔ ∀ y ∈ values, y ∈ known := by
  simp [List.removeAll, List.filter_eq_nil_iff]

theorem getLast?_eraseDups_iff {values : List String} {x : String} :
    values.eraseDups.getLast? = some x ↔ NewestAmong x values := by
  constructor
  · intro hlast
    have hmember : x ∈ values := List.mem_eraseDups.mp (List.mem_of_getLast? hlast)
    obtain ⟨before, after, rfl, fresh⟩ := List.eq_append_cons_of_mem hmember
    rw [eraseDups_append_cons after fresh, List.getLast?_append_cons] at hlast
    refine ⟨before, after, rfl, fresh, ?_⟩
    -- What is new behind `x` would come last, and `x` is not new behind itself.
    have hnone : (after.removeAll (before ++ [x])).eraseDups = [] := by
      by_contra hsome
      rw [List.getLast?_cons_of_ne_nil hsome] at hlast
      have hnew := List.mem_eraseDups.mp (List.mem_of_getLast? hlast)
      simp [List.removeAll] at hnew
    have hold : after.removeAll (before ++ [x]) = [] :=
      List.eq_nil_iff_forall_not_mem.mpr fun y hy =>
        List.ne_nil_of_mem (List.mem_eraseDups.mpr hy) hnone
    simpa using removeAll_eq_nil_iff.mp hold
  · rintro ⟨before, after, rfl, fresh, hafter⟩
    have hold : after.removeAll (before ++ [x]) = [] :=
      removeAll_eq_nil_iff.mpr (by simpa using hafter)
    rw [eraseDups_append_cons after fresh, hold]
    simp

/-- The lists that tell an identity, the one in force last. -/
def identityLists : List (Provenance → List String) := [names, addresses, hashes]

theorem identity_inherit {list : Provenance → List String} (h : list ∈ identityLists)
    (later earlier : Provenance) :
    list (later.inherit earlier) = joinDistinct (list earlier) (list later) := by
  simp only [identityLists, List.mem_cons, List.not_mem_nil, or_false] at h
  rcases h with rfl | rfl | rfl <;> rfl

/-- The last name that a node gave itself is the one it is shown under, at any time. -/
theorem nodeName_of_names {p : Provenance} {name : String} (h : p.names.getLast? = some name)
    (at? : Option Instant) (book? : Option NameBook) : p.nodeName at? book? = name := by
  simp [nodeName, h]

/-- The identity in force is in force after inheriting exactly where it is the newest of all that
the two provenances tell one after the other. The same decides whether a node that has named itself
is shown under the same name. -/
theorem identity_in_force_survives_iff (later earlier : Provenance) :
    (∀ list ∈ identityLists, ∀ current, (list later).getLast? = some current →
      ((list (later.inherit earlier)).getLast? = some current ↔
        NewestAmong current (list earlier ++ list later))) ∧
    ∀ current, later.names.getLast? = some current → ∀ at? book?,
      ((later.inherit earlier).nodeName at? book? = later.nodeName at? book? ↔
        NewestAmong current (earlier.names ++ later.names)) := by
  refine ⟨?_, ?_⟩
  · intro list hlist current _
    rw [identity_inherit hlist, joinDistinct, getLast?_eraseDups_iff]
  · intro current hcurrent at? book?
    have hjoined : (later.inherit earlier).names = (earlier.names ++ later.names).eraseDups := rfl
    obtain ⟨shown, hshown⟩ : ∃ shown, (later.inherit earlier).names.getLast? = some shown := by
      rw [← Option.isSome_iff_exists, List.getLast?_isSome, hjoined]
      apply List.ne_nil_of_mem (a := current)
      exact List.mem_eraseDups.mpr (List.mem_append_right _ (List.mem_of_getLast? hcurrent))
    rw [nodeName_of_names hshown, nodeName_of_names hcurrent, ← getLast?_eraseDups_iff, ← hjoined,
      hshown, Option.some_inj]

/-- A node that takes a new name and an address that it had before: the name survives, and the
address, which was given up for another one in between, does not. -/
theorem new_name_survives_inheriting :
    let later : Provenance := { names := ["db-4"], addresses := ["10.0.0.1"] }
    let earlier : Provenance :=
      { names := ["db-1", "db-2"], addresses := ["10.0.0.1", "10.0.0.2"] }
    (later.names.getLast? = some "db-4" ∧ names ∈ identityLists ∧
      NewestAmong "db-4" (earlier.names ++ later.names)) ∧
    (later.inherit earlier).names.getLast? = some "db-4" ∧
    (later.inherit earlier).nodeName none none = later.nodeName none none ∧
    ¬ NewestAmong "10.0.0.1" (earlier.addresses ++ later.addresses) := by
  intro later earlier
  have hcurrent : later.names.getLast? = some "db-4" := rfl
  have hnames : names ∈ identityLists := List.mem_cons_self
  have haddresses : addresses ∈ identityLists := List.mem_cons_of_mem _ List.mem_cons_self
  have hnewest : NewestAmong "db-4" (earlier.names ++ later.names) :=
    ⟨["db-1", "db-2"], [], rfl, by decide, List.forall_mem_nil _⟩
  obtain ⟨hlists, hshown⟩ := identity_in_force_survives_iff later earlier
  refine ⟨⟨hcurrent, hnames, hnewest⟩, (hlists names hnames _ hcurrent).mpr hnewest,
    (hshown _ hcurrent none none).mpr hnewest, ?_⟩
  intro holdest
  have hkept := (hlists addresses haddresses "10.0.0.1" rfl).mpr holdest
  exact absurd hkept (by decide +kernel)

/-- A node that goes back to a name of before is shown under the one that it has given up. -/
theorem name_taken_again_not_in_force :
    let later : Provenance := { names := ["db-1"] }
    let earlier : Provenance := { names := ["db-1", "db-2"] }
    later.names.getLast? = some "db-1" ∧
      (later.inherit earlier).names.getLast? = some "db-2" ∧
      later.nodeName none none = "db-1" ∧ (later.inherit earlier).nodeName none none = "db-2" := by
  decide +kernel

end NodeHistory.Provenance

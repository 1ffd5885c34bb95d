import Mathlib.Data.List.Basic
import Mathlib.Data.List.Induction
import NodeHistory.Provenance

/-!
Identities handed on along a line of segments. Joining two identity lists appends each value that is
new, so what a list comes to is found by induction from its back, and values that a part repeats may
be taken out of it beforehand. Main statement: it does not matter how a line of segments is grouped
when identities are handed on, handing on twice changes nothing, and of the values of both sides
none is lost, repeated or moved before one that was told earlier.
-/

namespace NodeHistory.Provenance

/-- One more value is appended if it is new. -/
theorem eraseDups_snoc (values : List String) (x : String) :
    (values ++ [x]).eraseDups =
      if x ∈ values then values.eraseDups else values.eraseDups ++ [x] := by
  rw [List.eraseDups_append]
  split
  · rename_i hold
    have hnone : [x].removeAll values = [] := by simpa [List.removeAll] using hold
    rw [hnone, List.eraseDups_nil, List.append_nil]
  · rename_i hnew
    have hone : [x].removeAll values = [x] := by simpa [List.removeAll] using hnew
    rw [hone]
    rfl

/-- The values stand in the order in which they first occur. -/
theorem eraseDups_in_order (values : List String) :
    values.eraseDups.Pairwise fun x y => values.idxOf x < values.idxOf y := by
  induction values using List.reverseRecOn with
  | nil => exact List.Pairwise.nil
  | append_singleton values x ih =>
      have hkept : values.eraseDups.Pairwise fun y z =>
          (values ++ [x]).idxOf y < (values ++ [x]).idxOf z := by
        refine ih.imp_of_mem fun hy hz hlt => ?_
        rw [List.mem_eraseDups] at hy hz
        rwa [List.idxOf_append_of_mem hy, List.idxOf_append_of_mem hz]
      rw [eraseDups_snoc]
      split
      · exact hkept
      · rename_i hnew
        refine List.pairwise_append.mpr ⟨hkept, List.pairwise_singleton _ x, ?_⟩
        intro y hy z hz
        obtain rfl := List.mem_singleton.mp hz
        rw [List.mem_eraseDups] at hy
        have hbefore := List.idxOf_lt_length_of_mem hy
        rw [List.idxOf_append_of_mem hy, List.idxOf_append_of_notMem hnew]
        omega

/-- What the later part repeats may be taken out of it beforehand. -/
theorem eraseDups_append_eraseDups (values more : List String) :
    (values ++ more.eraseDups).eraseDups = (values ++ more).eraseDups := by
  induction more using List.reverseRecOn with
  | nil => rfl
  | append_singleton more x ih =>
      rw [eraseDups_snoc, ← List.append_assoc values more, eraseDups_snoc]
      by_cases hmore : x ∈ more
      · rw [if_pos hmore, if_pos (List.mem_append_right values hmore), ih]
      · rw [if_neg hmore, ← List.append_assoc, eraseDups_snoc, ih]
        simp only [List.mem_append, List.mem_eraseDups]

/-- What the earlier part repeats may be taken out of it beforehand. -/
theorem eraseDups_eraseDups_append (values more : List String) :
    (values.eraseDups ++ more).eraseDups = (values ++ more).eraseDups := by
  induction more using List.reverseRecOn with
  | nil => simpa using eraseDups_append_eraseDups [] values
  | append_singleton more x ih =>
      rw [← List.append_assoc, ← List.append_assoc, eraseDups_snoc, eraseDups_snoc, ih]
      simp only [List.mem_append, List.mem_eraseDups]

theorem joinDistinct_assoc (first second third : List String) :
    joinDistinct first (joinDistinct second third) =
      joinDistinct (joinDistinct first second) third := by
  unfold joinDistinct
  rw [eraseDups_append_eraseDups, eraseDups_eraseDups_append, List.append_assoc]

theorem joinDistinct_self (values : List String) :
    joinDistinct values values = values.eraseDups := by
  have hnone : values.removeAll values = [] := by simp [List.removeAll]
  rw [joinDistinct, List.eraseDups_append, hnone, List.eraseDups_nil, List.append_nil]

theorem joinDistinct_again (earlier later : List String) :
    joinDistinct earlier (joinDistinct earlier later) = joinDistinct earlier later := by
  rw [joinDistinct_assoc, joinDistinct_self]
  exact eraseDups_eraseDups_append earlier later

/-- The values of two lists, told one after the other: each once, and in the order in which they
first occur. -/
structure JoinsInOrder (earlier later joined : List String) : Prop where
  nodup : joined.Nodup
  mem_iff : ∀ x, x ∈ joined ↔ x ∈ earlier ∨ x ∈ later
  in_order : joined.Pairwise fun x y =>
    (earlier ++ later).idxOf x < (earlier ++ later).idxOf y

theorem joinsInOrder_joinDistinct (earlier later : List String) :
    JoinsInOrder earlier later (joinDistinct earlier later) where
  nodup := by
    refine (eraseDups_in_order (earlier ++ later)).imp fun hlt hsame => ?_
    rw [hsame] at hlt
    exact absurd hlt (Nat.lt_irrefl _)
  mem_iff x := by rw [joinDistinct, List.mem_eraseDups, List.mem_append]
  in_order := eraseDups_in_order (earlier ++ later)

/-- The version that is known by the latest of three provenances that know one. -/
theorem version_inherit_assoc (a b c : Provenance) :
    ((c.inherit b).inherit a).version = (c.inherit (b.inherit a)).version := by
  by_cases hc : c.version = ""
  · simp [inherit, hc]
  · simp [inherit, hc]

theorem version_inherit_again (a c : Provenance) :
    ((c.inherit a).inherit a).version = (c.inherit a).version := by
  by_cases hc : c.version = ""
  · simp [inherit, hc]
  · simp [inherit, hc]

theorem inherit_assoc (a b c : Provenance) :
    (c.inherit b).inherit a = c.inherit (b.inherit a) := by
  have hversion := version_inherit_assoc a b c
  simp only [inherit] at hversion ⊢
  rw [joinDistinct_assoc, joinDistinct_assoc, joinDistinct_assoc, hversion]

theorem inherit_again (a c : Provenance) : (c.inherit a).inherit a = c.inherit a := by
  have hversion := version_inherit_again a c
  simp only [inherit] at hversion ⊢
  rw [joinDistinct_again, joinDistinct_again, joinDistinct_again, hversion]

/-- Of three provenances the identities come to the same however they are grouped, and inheriting
again changes nothing. What is inherited is each value of the two sides once, where it was first
told, and the version where none is known; the file stays. -/
theorem inherits_alike_in_any_grouping (a b c : Provenance) :
    (c.inherit b).inherit a = c.inherit (b.inherit a) ∧
    (c.inherit a).inherit a = c.inherit a ∧
    JoinsInOrder a.addresses c.addresses (c.inherit a).addresses ∧
    JoinsInOrder a.hashes c.hashes (c.inherit a).hashes ∧
    JoinsInOrder a.names c.names (c.inherit a).names ∧
    (c.inherit a).version = (if c.version = "" then a.version else c.version) ∧
    (c.inherit a).filePath = c.filePath ∧ (c.inherit a).fileType = c.fileType := by
  refine ⟨inherit_assoc a b c, inherit_again a c, ?_, ?_, ?_, rfl, rfl, rfl⟩
  · exact joinsInOrder_joinDistinct a.addresses c.addresses
  · exact joinsInOrder_joinDistinct a.hashes c.hashes
  · exact joinsInOrder_joinDistinct a.names c.names

end NodeHistory.Provenance

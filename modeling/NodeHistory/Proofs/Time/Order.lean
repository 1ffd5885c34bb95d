import Mathlib.Order.WithBot
import Mathlib.Tactic.Order
import NodeHistory.Time.Instant

/-!
The order of moments. Set moments are linearly ordered, and `rank` places a moment that may be
unset among them with a least element added. `precedes` is the strict order of ranks, so that the
laws of linear orders apply to it.
-/

namespace NodeHistory.Time

instance : LinearOrder Instant where
  le_refl a := Nat.le_refl a.micros
  le_trans _ _ _ := Nat.le_trans
  lt_iff_le_not_ge _ _ := Nat.lt_iff_le_and_not_ge
  le_antisymm _ _ hab hba := Instant.ext (Nat.le_antisymm hab hba)
  le_total a b := Nat.le_total a.micros b.micros
  toDecidableLE := inferInstance
  toDecidableLT := inferInstance
  toDecidableEq := inferInstance

/-- A moment that may be unset, among the set moments and one before all of them. -/
def rank (time? : Option Instant) : WithBot Instant := time?

@[simp] theorem rank_none : rank none = ⊥ := rfl

@[simp] theorem rank_some (t : Instant) : rank (some t) = (t : WithBot Instant) := rfl

theorem rank_injective : Function.Injective rank := fun _ _ h => h

theorem precedes_iff {a b : Option Instant} : precedes a b = true ↔ rank a < rank b := by
  cases a with
  | none =>
      cases b with
      | none => simp [precedes]
      | some t => simp [precedes]
  | some s =>
      cases b with
      | none => simp [precedes]
      | some t => simp [precedes]

theorem not_precedes_iff {a b : Option Instant} : precedes a b = false ↔ rank b ≤ rank a := by
  rw [← not_lt, ← precedes_iff, Bool.not_eq_true]

theorem precedes_asymm {a b : Option Instant} (h : precedes a b = true) : precedes b a = false :=
  not_precedes_iff.mpr (precedes_iff.mp h).le

end NodeHistory.Time

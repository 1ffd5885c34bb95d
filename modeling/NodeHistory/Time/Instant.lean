import NodeHistory.Time.Civil

/-!
Moments without a zone, as microseconds since the start of year 1. The type holds exactly the
years 1 to 9999, so that a value outside them cannot be built. `precedes` orders moments that
may be unset, and an unset one comes before all others.
-/

namespace NodeHistory.Time

structure Instant where
  micros : Nat
  inRange : micros < daysBeforeYear (lastYear + 1) * 86400 * 1000000
deriving DecidableEq

namespace Instant

def ofMicros? (micros : Int) : Option Instant :=
  if h : 0 ≤ micros ∧ micros.toNat < daysBeforeYear (lastYear + 1) * 86400 * 1000000 then
    some ⟨micros.toNat, h.2⟩
  else none

def ofCivil? (c : Civil) : Option Instant :=
  if c.Valid then ofMicros? c.micros else none

def civil (t : Instant) : Civil := Civil.ofMicros t.micros

/-- Microseconds from the start of year 1 to the start of 1970. -/
def epoch : Nat := daysBeforeYear 1970 * 86400 * 1000000

/-- `none` where the sum leaves the years 1 to 9999. -/
def addSeconds? (t : Instant) (seconds : Int) : Option Instant :=
  ofMicros? (t.micros + seconds * 1000000)

instance : LT Instant := ⟨fun a b => a.micros < b.micros⟩

instance (a b : Instant) : Decidable (a < b) := inferInstanceAs (Decidable (a.micros < b.micros))

instance : LE Instant := ⟨fun a b => a.micros ≤ b.micros⟩

instance (a b : Instant) : Decidable (a ≤ b) := inferInstanceAs (Decidable (a.micros ≤ b.micros))

theorem lt_def {a b : Instant} : a < b ↔ a.micros < b.micros := Iff.rfl

theorem le_def {a b : Instant} : a ≤ b ↔ a.micros ≤ b.micros := Iff.rfl

theorem ext {a b : Instant} (same : a.micros = b.micros) : a = b := by
  cases a
  cases b
  subst same
  rfl

end Instant

/-- Strictly earlier, where an unset moment is the earliest of all. -/
def precedes : Option Instant → Option Instant → Bool
  | none, b => b.isSome
  | some _, none => false
  | some a, some b => decide (a < b)

theorem precedes_none_left (b : Option Instant) : precedes none b = b.isSome := rfl

theorem precedes_none_right (a : Option Instant) : precedes a none = false := by
  cases a <;> rfl

theorem precedes_some {a b : Instant} : precedes (some a) (some b) = true ↔ a < b := by
  simp [precedes]

theorem precedes_irrefl (a : Option Instant) : precedes a a = false := by
  cases a with
  | none => rfl
  | some a => simp [precedes, Instant.lt_def]

theorem precedes_trans {a b c : Option Instant} (first : precedes a b = true)
    (second : precedes b c = true) : precedes a c = true := by
  cases a <;> cases b <;> cases c <;> simp_all [precedes, Instant.lt_def]
  omega

/-- Of two moments, neither before the other, each is the other. -/
theorem eq_of_not_precedes {a b : Option Instant} (left : precedes a b = false)
    (right : precedes b a = false) : a = b := by
  cases a <;> cases b <;> simp_all [precedes, Instant.lt_def]
  exact Instant.ext (by omega)

end NodeHistory.Time

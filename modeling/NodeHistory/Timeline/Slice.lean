import NodeHistory.Timeline.Basic

/-!
Choosing events by position. A negative position counts from the end. A slice runs from one bound
to another, which it excludes, in steps of either sign; bounds outside the timeline are moved to
its nearer end and omitted ones stand for the ends in the direction of the steps.
-/

namespace NodeHistory

structure Slice where
  start? : Option Int := none
  stop? : Option Int := none
  step : Int := 1

namespace Slice

/-- A bound as a position between `low` and `high`. -/
def clamp (low high length bound : Int) : Int :=
  let position := if bound < 0 then bound + length else bound
  max low (min high position)

/-- First position, excluded last position. -/
def bounds (s : Slice) (length : Nat) : Int × Int :=
  if s.step < 0 then
    let place := clamp (-1) (length - 1) length
    ((s.start?.map place).getD (length - 1), (s.stop?.map place).getD (-1))
  else
    let place := clamp 0 length length
    ((s.start?.map place).getD 0, (s.stop?.map place).getD length)

def positions (s : Slice) (length : Nat) : List Nat :=
  let (first, last) := s.bounds length
  let distance := if s.step < 0 then first - last else last - first
  let stride := s.step.natAbs
  (List.range ((distance.toNat + stride - 1) / stride)).map fun (k : Nat) =>
    (first + (k : Int) * s.step).toNat

end Slice

/-- Positions that can be told apart from one another: those of sixty-four bits. -/
def isPosition (n : Int) : Bool := -Int.ofNat (Nat.pow 2 63) ≤ n && n < Int.ofNat (Nat.pow 2 63)

namespace Timeline

def get? (t : Timeline) (position : Int) : Option Event :=
  let index := if position < 0 then position + t.events.length else position
  if index < 0 then none else t.events[index.toNat]?

/-- `none` for steps of zero, which lead nowhere. -/
def slice? (t : Timeline) (s : Slice) : Option Timeline :=
  if s.step = 0 then none
  else some (t.derive ((s.positions t.events.length).filterMap fun k => t.events[k]?))

end Timeline

end NodeHistory

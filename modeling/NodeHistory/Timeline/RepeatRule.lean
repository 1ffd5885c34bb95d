import NodeHistory.Event
import NodeHistory.Text.Quoted

/-!
Rules that tell whether an event repeats the tail of a timeline. A rule sees the new event and
the two events stored last: the one that carries the count and the latest occurrence. It may
refuse to compare them. Nothing else is asked of a rule, neither symmetry nor transitivity.
-/

namespace NodeHistory

/-- A rule's refusal of a new event, by that event's message. -/
structure Incomparable where
  message : String
deriving DecidableEq, Repr

def Incomparable.text (refusal : Incomparable) : String :=
  "cannot compare " ++ Text.quoted refusal.message

structure RepeatRule where
  name : String
  repeats : (event counted latest : Event) → Except Incomparable Bool

namespace RepeatRule

/-- The rule that an always decidable relation gives. -/
def ofTest (name : String) (test : (event counted latest : Event) → Bool) : RepeatRule :=
  ⟨name, fun event counted latest => .ok (test event counted latest)⟩

/-- All three stem from the same matcher and say the same. -/
def samePattern : RepeatRule :=
  ofTest "pattern" fun event counted latest =>
    (counted.pattern = latest.pattern ∧ latest.pattern = event.pattern) ∧
      counted.message = latest.message ∧ latest.message = event.message

/-- All three say the same, whatever they stem from. -/
def sameMessage : RepeatRule :=
  ofTest "message" fun event counted latest =>
    counted.message = latest.message ∧ latest.message = event.message

def always : RepeatRule := ofTest "always" fun _ _ _ => true

def never : RepeatRule := ofTest "never" fun _ _ _ => false

def refusing : RepeatRule := ⟨"failing", fun event _ _ => .error ⟨event.message⟩⟩

end RepeatRule

end NodeHistory

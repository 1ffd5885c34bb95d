/-!
Brackets, which close in the reverse order of their opening.
-/

namespace NodeHistory.Literal.Bracket

def isOpening (c : Char) : Bool := c = '(' || c = '[' || c = '\x7b'

def isClosing (c : Char) : Bool := c = ')' || c = ']' || c = '\x7d'

/-- The bracket that a closing one closes. -/
def opposite : Char → Char
  | ')' => '('
  | ']' => '['
  | _ => '\x7b'

theorem isOpening_opposite (c : Char) : isOpening (opposite c) = true := by
  unfold opposite; split <;> rfl

end NodeHistory.Literal.Bracket

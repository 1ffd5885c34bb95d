import NodeHistory.Console.Style

/-!
Text of which stretches have a style. Styles are kept by name: one that names nothing leaves its
stretch as it is, and one that cannot be made out at all is a fault once the text is shown. Which
stretches survive when a text is divided or shortened is therefore part of what the text is.
-/

namespace NodeHistory.Console

/-- A stretch from one place in a text up to another, with the name of its style. -/
structure Span where
  start : Nat
  stop : Nat
  style : String
deriving DecidableEq, Repr

namespace Span

def shifted (s : Span) (distance : Nat) : Span :=
  { s with start := s.start + distance, stop := s.stop + distance }

/-- What of a stretch lies in a part of the text, if anything does. -/
def within? (s : Span) (start length : Nat) : Option Span :=
  let first := max s.start start
  let last := min s.stop (start + length)
  if first < last then some ⟨first - start, last - start, s.style⟩ else none

/-- What of a stretch is left in a text that has been shortened. -/
def cut? (s : Span) (length : Nat) : Option Span :=
  if s.start < length then some { s with stop := min s.stop length } else none

/-- A stretch that reaches the end of a text grows with the text. -/
def grown (s : Span) (length growth : Nat) : Span :=
  if length ≤ s.stop then { s with stop := s.stop + growth } else s

def check (s : Span) : Except Text.NumberFault Unit :=
  match Style.ofName s.style.toList with
  | .error (.badPart fault) => .error fault
  | _ => .ok ()

end Span

structure StyledText where
  chars : List Char
  spans : List Span := []
deriving DecidableEq, Repr

namespace StyledText

def length (t : StyledText) : Nat := t.chars.length

def part (t : StyledText) (start length : Nat) : StyledText :=
  ⟨(t.chars.drop start).take length, t.spans.filterMap (·.within? start length)⟩

/-- Parts of the given lengths one after another. -/
def parts (t : StyledText) (lengths : List Nat) : List StyledText :=
  go 0 lengths
where
  go (start : Nat) : List Nat → List StyledText
    | [] => []
    | length :: rest => t.part start length :: go (start + length) rest

/-- As `parts`, but a text that stays whole keeps its empty stretches too. -/
def divide (t : StyledText) : List Nat → List StyledText
  | [] | [_] => [t]
  | lengths => t.parts lengths

def append (t u : StyledText) : StyledText :=
  ⟨t.chars ++ u.chars, t.spans ++ u.spans.map (·.shifted t.length)⟩

def join (texts : List StyledText) : StyledText := texts.foldl append ⟨[], []⟩

/-- The text without what exceeds a length. -/
def take (t : StyledText) (length : Nat) : StyledText :=
  ⟨t.chars.take length, t.spans.filterMap (·.cut? length)⟩

/-- Other characters for those of the text; what they do not reach any more is dropped. -/
def replace (t : StyledText) (chars : List Char) : StyledText :=
  if chars.length < t.length then ⟨chars, t.spans.filterMap (·.cut? chars.length)⟩
  else { t with chars }

/-- Blanks after the text, in the styles in which it ends. -/
def extend (t : StyledText) (blanks : Nat) : StyledText :=
  ⟨t.chars ++ List.replicate blanks ' ', t.spans.map (·.grown t.length blanks)⟩

/-- Looks up the styles of all stretches. -/
def check (t : StyledText) : Except Text.NumberFault Unit := t.spans.forM Span.check

end StyledText

end NodeHistory.Console

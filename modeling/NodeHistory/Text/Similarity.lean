import NodeHistory.Number.Decimal

/-!
Likeness of words. Two words share the longest block of characters that stands in both, the
earliest such block if there are several, and whatever they share before it and after it. Their
likeness is twice what they share over the sum of their lengths.
-/

namespace NodeHistory.Text

/-- The length of the common beginning of two texts. -/
def commonLead : List Char → List Char → Nat
  | a :: as, b :: bs => if a = b then commonLead as bs + 1 else 0
  | _, _ => 0

structure Block where
  left : Nat
  right : Nat
  length : Nat

/-- The longest block that two texts share: the first one of the left text, and of those the first
one of the right text. -/
def longestBlock (as bs : List Char) : Block :=
  let starts := (List.range as.length).flatMap fun i => (List.range bs.length).map fun j => (i, j)
  starts.foldl (fun best (i, j) =>
    let length := commonLead (as.drop i) (bs.drop j)
    if best.length < length then ⟨i, j, length⟩ else best) ⟨0, 0, 0⟩

/-- The number of characters that two texts share; each block splits the left text, so there are
at most as many as it has characters. -/
def shared : (blocks : Nat) → List Char → List Char → Nat
  | 0, _, _ => 0
  | blocks + 1, as, bs =>
    let block := longestBlock as bs
    if block.length = 0 then 0
    else
      shared blocks (as.take block.left) (bs.take block.right) + block.length +
        shared blocks (as.drop (block.left + block.length)) (bs.drop (block.right + block.length))

/-- Likeness as a quotient. -/
def likeness (a b : String) : Nat × Nat :=
  let as := a.toList
  let bs := b.toList
  (2 * shared as.length as bs, as.length + bs.length)

/-- Whether a likeness is at least six tenths. -/
def isClose (likeness : Nat × Nat) : Bool := 6 * likeness.2 ≤ 10 * likeness.1

/-- Greater likeness first, then the word that comes later in the alphabet. -/
def closerThan (a b : (Nat × Nat) × String) : Bool :=
  let left := a.1.1 * b.1.2
  let right := b.1.1 * a.1.2
  if left = right then decide (b.2 ≤ a.2) else decide (right < left)

/-- The candidates that are close to a word, at most three, the closest first. -/
def closeMatches (word : String) (candidates : List String) : List String :=
  let rated := candidates.map fun candidate => (likeness candidate word, candidate)
  (((rated.filter (isClose ·.1)).mergeSort closerThan).take 3).map (·.2)

end NodeHistory.Text

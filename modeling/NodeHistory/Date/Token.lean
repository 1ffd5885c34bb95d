import NodeHistory.Text.Blank
import NodeHistory.Text.Digit
import NodeHistory.Text.Letter

/-!
The tokens of a date text: words, numbers, one token for each blank, and each other character by
itself. Points join letters and digits into one run, as in `a.m.` or `10.5`. A run with points
that turns out to be more than one decimal number is taken apart at its points and commas. Null
characters are passed over.
-/

namespace NodeHistory.Date

abbrev Token := List Char

inductive Shape where
  | word
  | number
  | dottedWord
  | dottedNumber
deriving DecidableEq

/-- A run being read, last character first. It is `spelled` once a character has been met while
the run was a word. -/
structure Run where
  shape : Shape
  reversed : List Char
  spelled : Bool := false

namespace Run

def endsInPoint (run : Run) : Bool := run.reversed.head? = some '.'

/-- The run with one more character, or `none` if the character ends it. -/
def extend? (run : Run) (c : Char) : Option Run :=
  let grown (shape : Shape) (spelled : Bool) : Option Run :=
    some ⟨shape, c :: run.reversed, spelled⟩
  match run.shape with
  | .word =>
    if Text.isLetter c then grown .word true
    else if c = '.' then grown .dottedWord true
    else none
  | .number =>
    if Text.isDigit c then grown .number run.spelled
    else if c = '.' ∨ (c = ',' ∧ 2 ≤ run.reversed.length) then grown .dottedNumber run.spelled
    else none
  | .dottedWord =>
    if c = '.' ∨ Text.isLetter c then grown .dottedWord true
    else if Text.isDigit c ∧ run.endsInPoint then grown .dottedNumber true
    else none
  | .dottedNumber =>
    if c = '.' ∨ Text.isDigit c then grown .dottedNumber run.spelled
    else if Text.isLetter c ∧ run.endsInPoint then grown .dottedWord run.spelled
    else none

/-- A character that ends a run counts as met while the run was a word. -/
def ended (run : Run) : Run :=
  match run.shape with
  | .word | .dottedWord => { run with spelled := true }
  | .number | .dottedNumber => run

def isSeparator (c : Char) : Bool := c = '.' || c = ','

/-- The pieces between points and commas, with these as tokens of their own. -/
def pieces (text : List Char) : List Token :=
  go [] text
where
  go (piece : List Char) : List Char → List Token
    | [] => if piece.isEmpty then [] else [piece.reverse]
    | c :: rest =>
      if isSeparator c then
        if piece.isEmpty then [c] :: go [] rest else piece.reverse :: [c] :: go [] rest
      else go (c :: piece) rest

/-- A lone comma in a number stands for the point. -/
def withPoint (token : Token) : Token :=
  if token.contains '.' then token else token.map fun c => if c = ',' then '.' else c

def tokens (run : Run) : List Token :=
  let text := run.reversed.reverse
  let scattered := run.spelled || 1 < text.count '.' || (run.reversed.head?.any isSeparator)
  match run.shape with
  | .word | .number => [text]
  | .dottedWord => if scattered then pieces text else [text]
  | .dottedNumber => if scattered then pieces text else [withPoint text]

/-- What a character begins: a run, or a token of its own. -/
def start (c : Char) : List Token × Option Run :=
  if Text.isLetter c then ([], some ⟨.word, [c], false⟩)
  else if Text.isDigit c then ([], some ⟨.number, [c], false⟩)
  else if Text.isBlank c then ([[' ']], none)
  else ([[c]], none)

end Run

def Token.scan : Option Run → List Char → List Token
  | none, [] => []
  | some run, [] => run.tokens
  | none, c :: rest =>
    let (emitted, next) := Run.start c
    emitted ++ scan next rest
  | some run, c :: rest =>
    match run.extend? c with
    | some run => scan (some run) rest
    | none =>
      let (emitted, next) := Run.start c
      run.ended.tokens ++ emitted ++ scan next rest

def Token.ofText (text : List Char) : List Token :=
  Token.scan none (text.filter (· ≠ '\x00'))

end NodeHistory.Date

import NodeHistory.Console.StyledText
import NodeHistory.Text.CellWidth

/-!
Fitting text into columns. A paragraph is broken before words that no longer fit on the line; a
word too wide for any line stays whole and is cut afterwards, with an ellipsis in the last
column. Tabs lead to the next multiple of eight columns.
-/

namespace NodeHistory.Console

open Text (cells isBlank)

/-- A text of exactly the given width that begins like the given one, filled up with blanks. Where
a wide character would be cut in two, a blank takes its first half. -/
def fit (text : List Char) (width : Nat) : List Char :=
  if cells text ≤ width then text ++ List.replicate (width - cells text) ' '
  else if width = 0 then []
  else halve (text.length + 1) 0 text.length
where
  /-- Halves the range in which the last character that still fits must lie. -/
  halve : (rounds low high : Nat) → List Char
    | 0, low, _ => text.take low
    | rounds + 1, low, high =>
      let middle := (low + high) / 2
      let before := text.take (middle + 1)
      let reached := cells before
      if reached = width + 1 ∧ before.getLast?.any (Text.charCells · = 2) then
        before.dropLast ++ [' ']
      else if reached = width then before
      else if width < reached then halve rounds low middle
      else halve rounds middle high

/-- Cuts what exceeds the width and marks the cut. -/
def truncate (t : StyledText) (width : Nat) : StyledText :=
  if cells t.chars ≤ width then t else t.replace (fit t.chars (width - 1) ++ ['…'])

def tabWidth : Nat := 8

/-- Parts of a text that each end in a tab, except the last one. -/
def tabbedLengths (chars : List Char) : List Nat :=
  let lengths := (Text.split '\t' chars).map List.length
  (lengths.dropLast.map (· + 1)) ++ (lengths.getLast?.filter (0 < ·)).toList

/-- Replaces the tab that ends a part; the column is that of the part's start. -/
def expandPart (column : Nat) (t : StyledText) : StyledText :=
  if t.chars.getLast? = some '\t' then
    let bare := { t with chars := t.chars.dropLast ++ [' '] }
    let excess := (column + cells bare.chars) % tabWidth
    if excess = 0 then bare else bare.extend (tabWidth - excess)
  else t

def expandTabs (t : StyledText) : StyledText :=
  if t.chars.contains '\t' then
    StyledText.join (go 0 (t.parts (tabbedLengths t.chars)))
  else t
where
  go (column : Nat) : List StyledText → List StyledText
    | [] => []
    | part :: rest =>
      let expanded := expandPart column part
      expanded :: go (column + cells expanded.chars) rest

/-- Words with the blanks after them; the first also has the blanks before it. Blanks alone are no
word. -/
def chunks (text : List Char) : List (List Char) :=
  go [] false text
where
  go (chunk : List Char) (inWord : Bool) : List Char → List (List Char)
    | [] => if chunk.all isBlank then [] else [chunk.reverse]
    | c :: rest =>
      if isBlank c then go (c :: chunk) false rest
      else if inWord ∨ chunk.all isBlank then go (c :: chunk) true rest
      else chunk.reverse :: go [c] true rest

/-- The lengths of the lines, in characters, given the columns already used on the current one. -/
def lineLengths (width : Nat) : (length column : Nat) → List (List Char) → List Nat
  | length, _, [] => [length]
  | length, column, chunk :: rest =>
    let bare := cells (Text.trimEnd chunk)
    if column + bare ≤ width then
      lineLengths width (length + chunk.length) (column + cells chunk) rest
    else if length = 0 then
      lineLengths width chunk.length (if width < bare then cells chunk else column) rest
    else if width < bare ∨ 0 < column then
      length :: lineLengths width chunk.length (cells chunk) rest
    else lineLengths width (length + chunk.length) column rest

/-- Drops blanks at the end as far as the line is longer than the width. -/
def trimExcess (width : Nat) (line : StyledText) : StyledText :=
  let excess := line.length - width
  let blanks := (line.chars.reverse.takeWhile isBlank).length
  if min blanks excess = 0 then line else line.take (line.length - min blanks excess)

def paragraphs (t : StyledText) : List StyledText :=
  if t.chars.contains '\n' then go 0 ((Text.split '\n' t.chars).map List.length) else [t]
where
  go (start : Nat) : List Nat → List StyledText
    | [] => []
    | length :: rest => t.part start length :: go (start + length + 1) rest

/-- The lines of a text, none wider than the given width unless a single word is. -/
def wrap (width : Nat) (t : StyledText) : List StyledText :=
  (paragraphs t).flatMap fun paragraph =>
    let paragraph := expandTabs paragraph
    (paragraph.divide (lineLengths width 0 0 (chunks paragraph.chars))).map (trimExcess width)

inductive Side where
  | left
  | right
deriving DecidableEq, Repr

/-- A line with blanks before it up to a width. -/
def padLeft (width : Nat) (t : StyledText) : StyledText :=
  let blanks := width - cells t.chars
  ⟨List.replicate blanks ' ' ++ t.chars, t.spans.map (·.shifted blanks)⟩

/-- A line set against one side of a column of the given width, which it does not exceed. -/
def justify (side : Side) (width : Nat) (line : StyledText) : StyledText :=
  match side with
  | .left =>
    let line := truncate line width
    { line with chars := fit line.chars width }
  | .right => padLeft width (truncate (line.replace (Text.trimEnd line.chars)) width)

/-- A line in the middle, with the odd blank on its right. -/
def center (width : Nat) (line : List Char) : List Char :=
  fit (List.replicate ((width - cells line) / 2) ' ' ++ line) width

end NodeHistory.Console

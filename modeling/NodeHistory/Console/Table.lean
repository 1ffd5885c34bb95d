import NodeHistory.Console.Markup
import NodeHistory.Console.Wrap
import NodeHistory.Number.Decimal
import NodeHistory.Text.Lines

/-!
A framed table under a centred title. Columns are as wide as their widest cell with a blank on
either side. If the table is wider than the terminal the widest columns give way first, down to
the next widest, until it fits. Cells hold marked-up text.
-/

namespace NodeHistory.Console

structure Column where
  title : String
  side : Side := .left

structure Table where
  title : String
  columns : List Column
  /-- Each row has a cell for every column. -/
  rows : List (List String)

def terminalWidth : Nat := 80

/-- Blanks that stand around the text of a cell. -/
def cellPadding : Nat := 2

namespace Table

/-- Columns with the title in front, as the texts that they show. Markup is read column by
column. -/
def shownColumns (t : Table) : Except MarkupError (List (List StyledText)) :=
  let cellsOf (k : Nat) (column : Column) : List String :=
    column.title :: t.rows.map fun row => row.getD k ""
  (t.columns.zipIdx).mapM fun (column, k) =>
    (cellsOf k column).mapM fun cell => Markup.render cell.toList

def textWidth (text : List Char) : Nat :=
  ((Text.lines text).map Text.cells).foldl max 0

/-- The width that a column asks for, within the given limit. -/
def wishedWidth (limit : Nat) (texts : List StyledText) : Nat :=
  min limit ((texts.map fun t => textWidth t.chars).foldl max 0 + cellPadding)

/-- Takes an amount off the chosen widths in equal shares, none of them more than `most`. -/
def reduce (most : Nat) : (total shares : Nat) → List (Nat × Bool) → List Nat
  | _, _, [] => []
  | total, shares, (width, chosen) :: rest =>
    if chosen ∧ 0 < shares then
      let share := min most (Number.roundHalfEven total shares)
      (width - share) :: reduce most (total - share) (shares - 1) rest
    else width :: reduce most total shares rest

/-- One round of narrowing: the widest columns shrink towards the next widest. -/
def narrowOnce (excess : Nat) (widths : List Nat) : List Nat :=
  let widest := widths.foldl max 0
  let second := (widths.filter (· ≠ widest)).foldl max 0
  let chosen := widths.map fun width => (width, decide (width = widest))
  reduce (min excess (widest - second)) excess (widths.count widest) chosen

def total (widths : List Nat) : Nat := widths.foldl (· + ·) 0

/-- Narrows columns round by round until their sum is within the limit. -/
def narrow (limit : Nat) : (rounds : Nat) → List Nat → List Nat
  | 0, widths => widths
  | rounds + 1, widths =>
    if limit < total widths then narrow limit rounds (narrowOnce (total widths - limit) widths)
    else widths

/-- Widths of the columns, with what stands between the frame and its dividers. -/
def widths (columns : List (List StyledText)) : List Nat :=
  let limit := terminalWidth - (columns.length + 1)
  let wished := columns.map (wishedWidth limit)
  narrow limit (total wished) wished

/-- The pieces of a horizontal rule. -/
structure Rule where
  left : Char
  line : Char
  divider : Char
  right : Char

def Rule.text (rule : Rule) (widths : List Nat) : List Char :=
  rule.left :: (List.intercalate [rule.divider] (widths.map (List.replicate · rule.line)) ++
    [rule.right])

def topRule : Rule := ⟨'┏', '━', '┳', '┓'⟩
def headRule : Rule := ⟨'┡', '━', '╇', '┩'⟩
def bottomRule : Rule := ⟨'└', '─', '┴', '┘'⟩

/-- A cell's text, and where in which width it is set. -/
structure Cell where
  text : StyledText
  side : Side
  width : Nat

/-- The lines of a cell. Their styles are looked up once all of them are set. -/
def Cell.lines (c : Cell) : Except MarkupError (List (List Char)) := do
  let inner := c.width - cellPadding
  let lines := (wrap inner c.text).map (justify c.side inner)
  lines.forM fun line => line.check.mapError .badPart
  return lines.map fun line => ' ' :: line.chars ++ [' ']

/-- The lines of one row: every cell is filled up to the height of the row. -/
def rowLines (bar : Char) (cells : List Cell) : Except MarkupError (List (List Char)) := do
  let blocks ← cells.mapM fun cell => return (← cell.lines, cell.width)
  let height := (blocks.map (·.1.length)).foldl max 1
  return (List.range height).map fun k =>
    let parts := blocks.map fun (lines, width) => lines.getD k (List.replicate width ' ')
    bar :: (List.intercalate [bar] parts ++ [bar])

/-- The lines of the table. Markup is read before the first row is set. -/
def render (t : Table) : Except MarkupError (List (List Char)) := do
  let columns ← t.shownColumns
  let widths := widths columns
  let row (k : Nat) : List Cell :=
    (columns.zip (t.columns.zip widths)).map fun (texts, column, width) =>
      ⟨texts.getD k ⟨[], []⟩, column.side, width⟩
  let head ← rowLines '┃' (row 0)
  let body ← (List.range t.rows.length).mapM fun k => rowLines '│' (row (k + 1))
  let whole := total widths + (widths.length + 1)
  return center whole t.title.toList :: topRule.text widths :: head ++
    headRule.text widths :: body.flatten ++ [bottomRule.text widths]

end Table

end NodeHistory.Console

/-!
Lines of text. In a file a line ends at a line feed, a carriage return or the two in a row. A
text in memory breaks at further characters that stand for the end of a line, a page, a record or
a paragraph. Either way an end of line at the very end opens no further line.
-/

namespace NodeHistory.Text

/-- The lines of a text under a test for the characters that end one. A carriage return and the
line feed after it end one line together. -/
def linesBy (isBreak : Char → Bool) (text : List Char) : List (List Char) :=
  go [] text
where
  go (line : List Char) : List Char → List (List Char)
    | [] => if line.isEmpty then [] else [line.reverse]
    | '\r' :: '\n' :: rest =>
      if isBreak '\r' then line.reverse :: go [] rest else go ('\n' :: '\r' :: line) rest
    | c :: rest => if isBreak c then line.reverse :: go [] rest else go (c :: line) rest

/-- What stands between the occurrences of a separator. -/
def split (separator : Char) (text : List Char) : List (List Char) :=
  go [] text
where
  go (piece : List Char) : List Char → List (List Char)
    | [] => [piece.reverse]
    | c :: rest => if c = separator then piece.reverse :: go [] rest else go (c :: piece) rest

def isFileLineEnd (c : Char) : Bool := c = '\n' || c = '\r'

def fileLines (text : List Char) : List (List Char) := linesBy isFileLineEnd text

def isLineBreak (c : Char) : Bool :=
  let n := c.toNat
  (10 ≤ n && n ≤ 13) || (28 ≤ n && n ≤ 30) || n == 0x85 || n == 0x2028 || n == 0x2029

def lines (text : List Char) : List (List Char) := linesBy isLineBreak text

end NodeHistory.Text

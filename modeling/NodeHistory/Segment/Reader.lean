import NodeHistory.Json.Reader
import NodeHistory.Notice
import NodeHistory.Record
import NodeHistory.Segment.FileTree
import NodeHistory.Text.Lines
import NodeHistory.Text.Utf8
import NodeHistory.Timeline.Basic

/-!
Reading a segment: a file with one record a line, folded into a timeline. Blank lines are passed
over. A line that is no record is skipped with a notice that names its number in the file. Other
faults end the reading; the notices told till then stand. How deep a record may be and how its date
text is read is given from outside.
-/

namespace NodeHistory.Segment

inductive ReadError where
  | file (error : FileError) (path : String)
  | record (error : Json.ReadError)
  | date (error : Date.DateError)
  | refused (refusal : Incomparable)
deriving DecidableEq

def ReadError.text : ReadError → String
  | .file error path => error.text path
  | .record error => error.text
  | .date error => error.text
  | .refused refusal => refusal.text

/-- What reading a line depends on besides the line. -/
structure Decoding where
  nesting : Nat
  dates : Date.Reader

/-- What a line of a segment holds. -/
inductive Line where
  | blank
  | skipped (reason : SkippedLine)
  | event (e : Event)
  | faulty (error : ReadError)

def Line.ofText (d : Decoding) (path : String) (text : List Char) : Line :=
  let text := Text.trim text
  if text.isEmpty then .blank
  else match Json.read d.nesting text with
  | .error (.malformed _ _) => .skipped .notJson
  | .error error => .faulty (.record error)
  | .ok (.object members) =>
    match Event.ofRecord d.dates members path with
    | .ok e => .event e
    | .error error => .faulty (.date error)
  | .ok _ => .skipped .notObject

/-- The notices of the lines read, and the timeline or the fault that ended it. -/
abbrev Reading := List Notice × Except ReadError Timeline

/-- Adds the lines from the given number on to a timeline. -/
def addLines (d : Decoding) (path : String) :
    (number : Nat) → List (List Char) → Timeline → Reading
  | _, [], t => ([], .ok t)
  | number, text :: rest, t =>
    match Line.ofText d path text with
    | .blank => addLines d path (number + 1) rest t
    | .skipped reason =>
      let (notices, result) := addLines d path (number + 1) rest t
      (.skipped path number reason :: notices, result)
    | .faulty error => ([], .error error)
    | .event e =>
      match t.add e with
      | .error refusal => ([], .error (.refused refusal))
      | .ok t => addLines d path (number + 1) rest t

def ofBytes (d : Decoding) (path : String) (bytes : List UInt8) : Reading :=
  addLines d path 1 (Text.fileLines (Text.Utf8.decode bytes)) {}

/-- Reads the segment at a path, which its events and notices carry in normal form. -/
def read (d : Decoding) (access : FileAccess) (path : String) : Reading :=
  let path := Text.Path.normalised path
  match access path with
  | .error error => ([], .error (.file error path))
  | .ok bytes => ofBytes d path bytes

end NodeHistory.Segment

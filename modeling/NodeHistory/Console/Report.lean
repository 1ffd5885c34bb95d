import NodeHistory.Console.Arguments
import NodeHistory.Console.Table
import NodeHistory.Node.Interleaving
import NodeHistory.Segment.Reader
import NodeHistory.Text.ControlSequence

/-!
What the program prints. Segments are read in the order in which they are named and merged node
by node; then the number of nodes and the table of all events in the order of time are shown.
Warnings go to the error output, and with `--verbose` every notice with its source. A missing
file ends the run; a fault in a file or in a message's markup is a crash, after which what has
been printed stands. Errors in the use of the program are told without control sequences, notices
as they are.
-/

namespace NodeHistory.Console

inductive Crash where
  | segment (error : Segment.ReadError)
  | markup (error : MarkupError)
deriving DecidableEq

def Crash.text : Crash → String
  | .segment error => error.text
  | .markup error => error.text

structure Outcome where
  exitCode : Nat := 0
  out : List String := []
  err : List String := []
  crash? : Option Crash := none

namespace Outcome

def crashed (o : Outcome) (crash : Crash) : Outcome :=
  { o with exitCode := 1, crash? := some crash }

/-- The lines of an output, each with its end. -/
def text (lines : List String) : String := String.join (lines.map (· ++ "\n"))

end Outcome

/-- The notices that are shown, as lines. -/
def shownNotices (verbose : Bool) (notices : List Notice) : List String :=
  if verbose then notices.map fun n => n.source ++ ": " ++ n.text
  else (notices.filter Notice.isWarning).map Notice.text

/-- An error that the user made, as a line. -/
def complaint (text : String) : String :=
  String.ofList (Text.withoutSequences ("Error: " ++ text).toList)

namespace Task

/-- Reads the files in turn into the registry. On the way notices are collected; what ends the
reading early is the outcome. -/
def gather (t : Task) (d : Segment.Decoding) (access : FileAccess) :
    List String → Registry → List Notice → Except Outcome (Registry × List Notice)
  | [], r, notices => .ok (r, notices)
  | file :: rest, r, notices =>
    let (told, result) := Segment.read d access file
    let notices := notices ++ told
    let err := shownNotices t.verbose notices
    match result with
    | .error (.file error path) =>
      if error.isAbsence then
        .error { exitCode := 1, err := err ++ [complaint ("Input file not found: " ++ file)] }
      else .error (({ err } : Outcome).crashed (.segment (.file error path)))
    | .error error => .error (({ err } : Outcome).crashed (.segment error))
    | .ok segment =>
      let (r, told) := match t.grouping with
        | .directory => (r.mergeByDirectory (Text.Path.normalised file) segment).2
        | .identifier => (r.mergeByName segment).2
      gather t d access rest r (notices ++ told)

/-- The cells of an event: time, node, message and the number of repetitions if there are any. -/
def row (pair : String × Event) : List String :=
  let e := pair.2
  [(e.stamp.map (·.shown)).getD "", pair.1, e.message,
    if 1 < e.count then toString e.count else ""]

def table (t : Task) (r : Registry) : Table :=
  let interleaving := Interleaving.ofRegistry r
  let pairs := if t.limit = 0 then interleaving.drain.1 else (interleaving.take t.limit).1
  { title := "Interleaved timeline"
    columns := [⟨"Time", .left⟩, ⟨"Node", .left⟩, ⟨"Message", .left⟩, ⟨"Repeats", .right⟩]
    rows := pairs.map row }

def run (t : Task) (d : Segment.Decoding) (access : FileAccess) : Outcome :=
  match t.gather d access t.files {} [] with
  | .error outcome => outcome
  | .ok (r, notices) =>
    let outcome : Outcome :=
      { out := ["Nodes: " ++ toString r.nodes.length], err := shownNotices t.verbose notices }
    match (t.table r).render with
    | .error error => outcome.crashed (.markup error)
    | .ok lines => { outcome with out := outcome.out ++ lines.map String.ofList }

end Task

/-- A fault in the use of an option's value is told without a pointer to the help. -/
def UsageFault.isBrief : UsageFault → Bool
  | .option (.valueMissing _) | .option (.valueUnexpected _) => true
  | _ => false

def Invocation.run (d : Segment.Decoding) (access : FileAccess) : Invocation → Outcome
  | .help scope => { out := scope.help }
  | .version => { out := [Console.version] }
  | .unguided => { exitCode := 2, err := Scope.program.help }
  | .fault scope problem =>
    let pointer := if problem.isBrief then []
      else [scope.usage, "Try '" ++ scope.invocation ++ " --help' for help.", ""]
    { exitCode := 2, err := pointer ++ [complaint problem.text] }
  | .interleave task => task.run d access

def run (d : Segment.Decoding) (arguments : List String) (access : FileAccess) : Outcome :=
  (Invocation.ofArguments arguments).run d access

end NodeHistory.Console

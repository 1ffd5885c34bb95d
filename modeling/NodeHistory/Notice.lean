import NodeHistory.Time.Text

/-!
What the program tells about its decisions while it works. Notices are values, collected in the
order in which they arise; their level, their source and their wording are fixed here.
-/

namespace NodeHistory

open Time

inductive MergeNotice where
  | superseded (start finish laterFinish : Option Instant)
  | keptOnEqualStart (start finish : Option Instant)
  | contained (start finish innerStart innerFinish : Option Instant)
  | overlap (finish : Option Instant)
deriving DecidableEq

inductive RegistryNotice where
  | emptyIgnored
  | merging (events : Nat) (node : String)
  | joining (path node : String)
deriving DecidableEq

inductive SkippedLine where
  | notJson
  | notObject
deriving DecidableEq

inductive Notice where
  | merge (notice : MergeNotice)
  | registry (notice : RegistryNotice)
  | skipped (path : String) (line : Nat) (reason : SkippedLine)
deriving DecidableEq

def MergeNotice.text : MergeNotice → String
  | .superseded start finish laterFinish =>
    "Equal start " ++ spaced start ++ ", later end " ++ spaced laterFinish ++ " supersedes " ++
      spaced finish
  | .keptOnEqualStart start finish =>
    "Equal start " ++ spaced start ++ ", keeping timeline ending " ++ spaced finish
  | .contained start finish innerStart innerFinish =>
    "Timeline [" ++ spaced start ++ ", " ++ spaced finish ++ "] contains [" ++
      spaced innerStart ++ ", " ++ spaced innerFinish ++ "]"
  | .overlap finish => "Overlap until " ++ spaced finish ++ ", cutting later timeline"

def RegistryNotice.text : RegistryNotice → String
  | .emptyIgnored => "Ignoring empty timeline"
  | .merging events node => "Merging " ++ toString events ++ " events into node " ++ node
  | .joining path node => "Segment " ++ path ++ " joins node " ++ node

def SkippedLine.text : SkippedLine → String
  | .notJson => "not valid JSON, skipped"
  | .notObject => "not a JSON object, skipped"

namespace Notice

def text : Notice → String
  | .merge notice => notice.text
  | .registry notice => notice.text
  | .skipped path line reason => path ++ ":" ++ toString line ++ ": " ++ reason.text

/-- Skipped input is worth a warning; all else is told on request only. -/
def isWarning : Notice → Bool
  | .skipped .. => true
  | _ => false

def level (n : Notice) : String := if n.isWarning then "WARNING" else "DEBUG"

def source : Notice → String
  | .merge _ => "logweave.context.merging.timeline_merger"
  | .registry _ => "logweave.services.timeline"
  | .skipped .. => "logweave.cli.commands"

end Notice

end NodeHistory

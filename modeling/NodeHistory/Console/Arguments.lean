import NodeHistory.Console.Options
import NodeHistory.Text.Blank
import NodeHistory.Text.Digit

/-!
The command line: what the arguments ask for. Requests for help and for the version go before all
else. The options of a command are checked in the order in which they are given, each with the
value given last, and the operands after them.
-/

namespace NodeHistory.Console

inductive Grouping where
  | directory
  | identifier
deriving DecidableEq, Repr

/-- What to interleave and how; a limit of zero is none. -/
structure Task where
  files : List String
  grouping : Grouping := .directory
  limit : Nat := 0
  verbose : Bool := false
deriving DecidableEq

inductive UsageFault where
  | option (fault : OptionFault)
  | noSuchCommand (name : String)
  | commandMissing
  | filesMissing
  | noSuchGrouping (value : String)
  | notANumber (value : String)
  | negative (value : Int)
deriving DecidableEq

def UsageFault.text : UsageFault → String
  | .option fault => fault.text
  | .noSuchCommand name => "No such command " ++ Text.quoted name ++ "."
  | .commandMissing => "Missing command."
  | .filesMissing => "Missing argument 'FILES...'."
  | .noSuchGrouping value =>
    "Invalid value for '--group-by': " ++ Text.quoted value ++
      " is not one of 'directory', 'identifier'."
  | .notANumber value =>
    "Invalid value for '--limit': " ++ Text.quoted value ++ " is not a valid integer range."
  | .negative value =>
    "Invalid value for '--limit': " ++ toString value ++ " is not in the range x>=0."

/-- The program as a whole or its one command. -/
inductive Scope where
  | program
  | command
deriving DecidableEq, Repr

namespace Scope

def invocation : Scope → String
  | .program => "logweave"
  | .command => "logweave interleave"

def usage : Scope → String
  | .program => "Usage: logweave [OPTIONS] COMMAND [ARGS]..."
  | .command => "Usage: logweave interleave [OPTIONS] FILES..."

def help : Scope → List String
  | .program => [
    "Usage: logweave [OPTIONS] COMMAND [ARGS]...",
    "",
    "  logweave - Multi-node Log Timeline Merger",
    "",
    "Options:",
    "  --version  Show the version and exit.",
    "  --help     Show this message and exit.",
    "",
    "Commands:",
    "  interleave  Merge segments per node and print every event in time order."]
  | .command => [
    "Usage: logweave interleave [OPTIONS] FILES...",
    "",
    "  Merge segments per node and print every event in time order.",
    "",
    "  Example:     logweave interleave logs/node1/*.jsonl logs/node2/*.jsonl --limit",
    "  50",
    "",
    "Options:",
    "  --group-by [directory|identifier]",
    "                                  How segments are assigned to nodes (default:",
    "                                  directory)",
    "  --limit INTEGER RANGE           Max events to display (default: all)  [x>=0]",
    "  -v, --verbose                   Log merge decisions",
    "  --help                          Show this message and exit."]

def options : Scope → List OptionForm
  | .program => [{ name := "--version" }, { name := "--help" }]
  | .command => [
    { name := "--group-by", takesValue := true },
    { name := "--limit", takesValue := true },
    { name := "--verbose", letter? := some 'v' },
    { name := "--help" }]

end Scope

def version : String := "logweave, version 1.0.0"

inductive Invocation where
  | help (scope : Scope)
  | version
  /-- No arguments at all: help is shown, but as an error. -/
  | unguided
  | fault (scope : Scope) (fault : UsageFault)
  | interleave (task : Task)
deriving DecidableEq

/-- Blanks that may surround a number. -/
def surroundsNumber (c : Char) : Bool :=
  if c.toNat < 127 then (9 ≤ c.toNat && c.toNat ≤ 13) || c = ' ' else Text.isBlank c

/-- Digits in which single underscores may stand between others. -/
def digitsOf? : List Char → Option (List Char)
  | [] => some []
  | ['_'] => none
  | '_' :: '_' :: _ => none
  | '_' :: rest => digitsOf? rest
  | c :: rest => (digitsOf? rest).map (c :: ·)

/-- A whole number with or without a sign. -/
def wholeNumber? (text : List Char) : Option Int :=
  let bare := (text.dropWhile surroundsNumber).reverse.dropWhile surroundsNumber |>.reverse
  let (negative, figures) := match bare with
    | '-' :: rest => (true, rest)
    | '+' :: rest => (false, rest)
    | _ => (false, bare)
  if figures.head? = some '_' then none
  else do
    let n ← Text.boundedNumber? (← digitsOf? figures)
    return if negative then -(n : Int) else n

namespace Task

def setGrouping (t : Task) : String → Except UsageFault Task
  | "directory" => .ok { t with grouping := .directory }
  | "identifier" => .ok { t with grouping := .identifier }
  | value => .error (.noSuchGrouping value)

def setLimit (t : Task) (value : String) : Except UsageFault Task :=
  match wholeNumber? value.toList with
  | none => .error (.notANumber value)
  | some n => if n < 0 then .error (.negative n) else .ok { t with limit := n.toNat }

def set (t : Task) (name value : String) : Except UsageFault Task :=
  match name with
  | "--group-by" => t.setGrouping value
  | "--limit" => t.setLimit value
  | _ => .ok { t with verbose := true }

end Task

/-- Each option once, where it is first given, with the value given last. -/
def lastValues (settings : List (String × String)) : List (String × String) :=
  (settings.map (·.1)).eraseDups.filterMap fun name =>
    (settings.reverse.lookup name).map (name, ·)

/-- The first request for help or the version. -/
def information? (scope : Scope) (settings : List (String × String)) : Option Invocation :=
  settings.findSome? fun (name, _) =>
    if name = "--help" then some (.help scope)
    else if name = "--version" then some .version
    else none

def Invocation.ofCommand (arguments : List String) : Invocation :=
  match OptionForm.scan Scope.command.options true {} arguments with
  | .error problem => .fault .command (.option problem)
  | .ok scanned =>
    match information? .command scanned.settings with
    | some answer => answer
    | none =>
      let task : Except UsageFault Task :=
        (lastValues scanned.settings).foldlM (fun t (name, value) => t.set name value)
          { files := scanned.operands }
      match task with
      | .error problem => .fault .command problem
      | .ok task => if task.files.isEmpty then .fault .command .filesMissing else .interleave task

/-- The options before the command's name: a fault in them or a request for information, or else
the arguments from the name on. -/
def Invocation.beforeCommand (arguments : List String) : Except Invocation (List String) :=
  match OptionForm.scan Scope.program.options false {} arguments with
  | .error problem => .error (.fault .program (.option problem))
  | .ok scanned =>
    match information? .program scanned.settings with
    | some answer => .error answer
    | none => .ok scanned.operands

/-- A name that is no command's may still be an option behind two dashes, and is read again as
one. -/
def Invocation.ofArguments (arguments : List String) : Invocation :=
  if arguments.isEmpty then .unguided
  else match beforeCommand arguments with
  | .error answer => answer
  | .ok [] => .fault .program .commandMissing
  | .ok (name :: rest) =>
    if name = "interleave" then ofCommand rest
    else match beforeCommand (name :: rest) with
    | .error answer => answer
    | .ok _ => .fault .program (.noSuchCommand name)

end NodeHistory.Console

import NodeHistory.Console.Report
import NodeHistory.Date.Reader

/-!
The program: it reads the files that the arguments name, and prints the outcome. What reading
depends on besides the files is settled here.
-/

namespace NodeHistory.Console

def Invocation.files : Invocation → List String
  | .interleave task => task.files.map Text.Path.normalised
  | _ => []

def fileErrorOf : IO.Error → FileError
  | .inappropriateType none _ _ => .isDirectory
  | .inappropriateType (some _) _ _ => .notDirectory
  | .invalidArgument _ _ _ => .nameTooLong
  | _ => .missing

def readBytes (path : String) : IO (Except FileError (List UInt8)) := do
  if path.contains '\x00' then return .error .nullInName
  try return .ok (← IO.FS.readBinFile path).toList
  catch e => return .error (fileErrorOf e)

def readAll (paths : List String) : IO FileAccess := do
  let found ← paths.mapM fun path => return (path, ← readBytes path)
  return fun path => (found.lookup path).getD (.error .missing)

/-- The present moment, with which the file system marks a new file. Its day is that of the zero
meridian; local clocks are not known here. -/
def presentMoment : IO Time.Instant := do
  let (_, path) ← IO.FS.createTempFile
  let mark := (← path.metadata).modified
  IO.FS.removeFile path
  let micros := mark.sec * 1000000 + (mark.nsec.toNat / 1000 + Time.Instant.epoch : Nat)
  return (Time.Instant.ofMicros? micros).getD ⟨Time.Instant.epoch, by decide⟩

/-- As many lists and objects may be open at a time as the language's stack has room for. -/
def deepestNesting : Nat := 990

/-- Runs the program; what stopped it is told last. -/
def execute (arguments : List String) : IO UInt32 := do
  let decoding : Segment.Decoding := ⟨deepestNesting, Date.reader (← presentMoment)⟩
  let outcome := run decoding arguments (← readAll (Invocation.ofArguments arguments).files)
  IO.print (Outcome.text outcome.out)
  IO.eprint (Outcome.text (outcome.err ++ (outcome.crash?.map Crash.text).toList))
  return outcome.exitCode.toUInt32

end NodeHistory.Console

def main (arguments : List String) : IO UInt32 := NodeHistory.Console.execute arguments

import NodeHistory.Text.Quoted
import NodeHistory.Text.Similarity

/-!
Options among the arguments of a command. Long options start with two dashes and may carry a
value after an equals sign; letters after a single dash are short options in a row, the last of
which may carry its value along. Two dashes alone end the options. What is not an option is an
operand, and a single dash is one too.
-/

namespace NodeHistory.Console

/-- An option under its long name, with a letter if it has a short form. -/
structure OptionForm where
  name : String
  letter? : Option Char := none
  takesValue : Bool := false

inductive OptionFault where
  | unknown (name : String) (similar : List String)
  | valueMissing (name : String)
  | valueUnexpected (name : String)
deriving DecidableEq

def OptionFault.text : OptionFault → String
  | .unknown name [] => "No such option: " ++ name
  | .unknown name [one] => "No such option: " ++ name ++ " Did you mean " ++ one ++ "?"
  | .unknown name similar =>
    "No such option: " ++ name ++ " (Possible options: " ++
      String.intercalate ", " (similar.mergeSort fun a b => decide (a ≤ b)) ++ ")"
  | .valueMissing name => "Option " ++ Text.quoted name ++ " requires an argument."
  | .valueUnexpected name => "Option " ++ Text.quoted name ++ " does not take a value."

/-- The options given, in order and by their long names, and the operands. -/
structure Scanned where
  settings : List (String × String) := []
  operands : List String := []

namespace Scanned

def addSetting (s : Scanned) (form : OptionForm) (value : String) : Scanned :=
  { s with settings := s.settings ++ [(form.name, value)] }

def addOperand (s : Scanned) (operand : String) : Scanned :=
  { s with operands := s.operands ++ [operand] }

end Scanned

namespace OptionForm

/-- One argument of short options after the dash. The value of an option is the rest of the
argument or else the next argument, of which it is told whether it was used. -/
def scanLetters (forms : List OptionForm) (next? : Option String) (s : Scanned) :
    List Char → Except OptionFault (Scanned × Bool)
  | [] => .ok (s, false)
  | letter :: rest =>
    match forms.find? (·.letter? = some letter) with
    | none => .error (.unknown (String.ofList ['-', letter]) [])
    | some form =>
      if form.takesValue then
        if rest.isEmpty then
          match next? with
          | none => .error (.valueMissing (String.ofList ['-', letter]))
          | some value => .ok (s.addSetting form value, true)
        else .ok (s.addSetting form (String.ofList rest), false)
      else scanLetters forms next? (s.addSetting form "") rest

/-- One argument that starts with a dash. A name that is not that of a long option is read as
short ones, unless it starts with two dashes. -/
def scanOption (forms : List OptionForm) (argument : String) (next? : Option String)
    (s : Scanned) : Except OptionFault (Scanned × Bool) :=
  let text := argument.toList
  let name := String.ofList (text.takeWhile (· ≠ '='))
  let value? := match text.dropWhile (· ≠ '=') with
    | [] => none
    | _ :: value => some (String.ofList value)
  match forms.find? (·.name = name) with
  | some form =>
    match form.takesValue, value?, next? with
    | true, some value, _ => .ok (s.addSetting form value, false)
    | true, none, some value => .ok (s.addSetting form value, true)
    | true, none, none => .error (.valueMissing name)
    | false, some _, _ => .error (.valueUnexpected name)
    | false, none, _ => .ok (s.addSetting form "", false)
  | none =>
    if text[1]? = some '-' then
      .error (.unknown name (Text.closeMatches name (forms.map (·.name))))
    else scanLetters forms next? s (text.drop 1)

def isOption (argument : String) : Bool :=
  argument.toList.head? = some '-' && 1 < argument.length

/-- Scans all arguments. Unless operands may be mixed with options, the first operand ends the
options. -/
def scan (forms : List OptionForm) (mixed : Bool) (s : Scanned) :
    List String → Except OptionFault Scanned
  | [] => .ok s
  | argument :: rest =>
    if argument = "--" then .ok { s with operands := s.operands ++ rest }
    else if isOption argument then
      match rest with
      | [] =>
        match scanOption forms argument none s with
        | .error fault => .error fault
        | .ok (s, _) => .ok s
      | next :: later =>
        match scanOption forms argument (some next) s with
        | .error fault => .error fault
        | .ok (s, true) => scan forms mixed s later
        | .ok (s, false) => scan forms mixed s (next :: later)
    else if mixed then scan forms mixed (s.addOperand argument) rest
    else .ok { s with operands := s.operands ++ argument :: rest }

end OptionForm

end NodeHistory.Console

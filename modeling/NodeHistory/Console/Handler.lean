import NodeHistory.Literal.Value
import NodeHistory.Text.Alphanumeric
import NodeHistory.Text.Blank
import NodeHistory.Text.Quoted

/-!
Handlers of marked-up text. What follows the equals sign of a handler's tag is the name of an
action, with its parameters in brackets if it has any; or else it is a literal. The parameters are
a literal too.
-/

namespace NodeHistory.Console

/-- Why a handler is refused: what was given, what was read as a literal, and its fault. -/
structure HandlerFault where
  given : List Char
  read : List Char
  fault : Literal.ValueFault
deriving DecidableEq

def HandlerFault.text (f : HandlerFault) : String :=
  let quoted (text : List Char) : String := String.ofList (Text.quotedChars text)
  match f.fault with
  | .read .tooDeep => "error parsing " ++ quoted f.given ++ "; "
  | .read fault =>
    "error parsing " ++ quoted f.read ++ " in " ++ quoted f.given ++ "; " ++ fault.text
  | fault => "error parsing " ++ quoted f.given ++ "; " ++ fault.text

namespace Handler

def isNamePart (c : Char) : Bool := Text.isAlphanumeric c || c = '_' || c = '.'

/-- The literal in what is given; no parameters are an empty tuple. -/
def literal (given : List Char) : List Char :=
  let text := Text.trim given
  match text.dropWhile isNamePart with
  | [] => ['(', ')']
  | '(' :: rest =>
    if rest.getLast? = some ')' ∧ !rest.contains '\n' then '(' :: rest else text
  | _ => text

def check (given : List Char) : Except HandlerFault Unit :=
  (Literal.check (literal given)).mapError fun fault => ⟨given, literal given, fault⟩

end Handler

end NodeHistory.Console

import NodeHistory.Json.Token

/-!
Reading a record. Tokens are taken one after another by a machine whose stack holds the lists and
objects that are part way through, so that reading ends with the text and nesting is limited by
counting. How deep it may be is up to the caller. The first fault met decides: text that is no
record, a whole number with too many digits, or too many values inside one another.
-/

namespace NodeHistory.Json

inductive Container where
  | list
  | object
deriving DecidableEq, Repr

/-- A place in a text; lines and columns are counted from one. -/
structure Place where
  offset : Nat
  line : Nat
  column : Nat
deriving DecidableEq, Repr

def Place.ofOffset (text : List Char) (offset : Nat) : Place :=
  let before := text.take offset
  ⟨offset, before.count '\n' + 1, (before.reverse.takeWhile (· ≠ '\n')).length + 1⟩

inductive ReadError where
  | malformed (fault : SyntaxFault) (place : Place)
  | tooManyDigits (count : Nat)
  | tooDeep (container : Container)
deriving DecidableEq, Repr

def SyntaxFault.text : SyntaxFault → String
  | .valueExpected => "Expecting value"
  | .keyExpected => "Expecting property name enclosed in double quotes"
  | .colonExpected => "Expecting ':' delimiter"
  | .commaExpected => "Expecting ',' delimiter"
  | .extraData => "Extra data"
  | .unterminatedText => "Unterminated string starting at"
  | .controlCharacter => "Invalid control character at"
  | .badEscape => "Invalid \\escape"
  | .badNumberEscape => "Invalid \\uXXXX escape"
  | .byteOrderMark => "Unexpected UTF-8 BOM (decode using utf-8-sig)"

def Container.text : Container → String
  | .list => "array"
  | .object => "object"

def ReadError.text : ReadError → String
  | .malformed fault place =>
    fault.text ++ ": line " ++ toString place.line ++ " column " ++ toString place.column ++
      " (char " ++ toString place.offset ++ ")"
  | .tooManyDigits count => (Text.NumberFault.tooManyDigits count).text
  | .tooDeep container =>
    "maximum recursion depth exceeded while decoding a JSON " ++ container.text ++
      " from a unicode string"

/-- What stops the machine; a syntax fault comes with the length of the text from there on. -/
inductive Stop where
  | malformed (fault : SyntaxFault) (left : Nat)
  | tooManyDigits (count : Nat)
  | tooDeep (container : Container)

def Stop.error (text : List Char) : Stop → ReadError
  | .malformed fault left => .malformed fault (Place.ofOffset text (text.length - left))
  | .tooManyDigits count => .tooManyDigits count
  | .tooDeep container => .tooDeep container

/-- A container part way through; the items of a list are kept last first. -/
inductive Frame where
  | list (items : List Json)
  | member (members : Members) (key : String)

/-- What has been read and what may come next. -/
inductive Progress where
  /-- A value, or the end of a list that has just been opened. -/
  | value (stack : List Frame) (mayClose : Bool)
  /-- A key, or the end of an object that has just been opened. -/
  | key (members : Members) (stack : List Frame) (mayClose : Bool)
  | colon (members : Members) (key : String) (stack : List Frame)
  | afterItem (items : List Json) (stack : List Frame)
  | afterMember (members : Members) (stack : List Frame)
  | done (value : Json)

namespace Progress

/-- A finished value goes into the container around it. -/
def supply (value : Json) : List Frame → Progress
  | [] => .done value
  | .list items :: stack => .afterItem (value :: items) stack
  | .member members name :: stack => .afterMember (members.set name value) stack

/-- A token that begins a value or is one; `none` for any other. No more than `nesting` lists and
objects are open at a time. -/
def openValue (nesting : Nat) (stack : List Frame) (token : Token) :
    Option (Except Stop Progress) :=
  let opened (container : Container) (progress : Progress) : Except Stop Progress :=
    if nesting ≤ stack.length then .error (.tooDeep container) else .ok progress
  match token with
  | .openList => some (opened .list (.value (.list [] :: stack) true))
  | .openObject => some (opened .object (.key [] stack true))
  | .null => some (.ok (supply .null stack))
  | .bool b => some (.ok (supply (.bool b) stack))
  | .real x => some (.ok (supply (.real x) stack))
  | .text s => some (.ok (supply (.text s) stack))
  | .badText fault left => some (.error (.malformed fault left))
  | .int negative digits =>
    some (match Text.boundedNumber? digits with
      | none => .error (.tooManyDigits digits.length)
      | some n => .ok (supply (.int (if negative then -n else n)) stack))
  | _ => none

/-- What a token makes of what has been read; `none` for a token that may not come here. -/
def step? (nesting : Nat) (progress : Progress) (token : Token) : Option (Except Stop Progress) :=
  match progress, token with
  | .value (.list _ :: stack) true, .closeList => some (.ok (supply (.list []) stack))
  | .value stack _, _ => openValue nesting stack token
  | .key members stack true, .closeObject => some (.ok (supply (.object members) stack))
  | .key members stack _, .text name => some (.ok (.colon members name stack))
  | .key _ _ _, .badText fault left => some (.error (.malformed fault left))
  | .colon members name stack, .colon =>
    some (.ok (.value (.member members name :: stack) false))
  | .afterItem items stack, .comma => some (.ok (.value (.list items :: stack) false))
  | .afterItem items stack, .closeList => some (.ok (supply (.list items.reverse) stack))
  | .afterMember members stack, .comma => some (.ok (.key members stack false))
  | .afterMember members stack, .closeObject => some (.ok (supply (.object members) stack))
  | _, _ => none

/-- What is wrong if something else comes than may come. -/
def fault : Progress → SyntaxFault
  | .value .. => .valueExpected
  | .key .. => .keyExpected
  | .colon .. => .colonExpected
  | .afterItem .. | .afterMember .. => .commaExpected
  | .done _ => .extraData

def run (nesting : Nat) (progress : Progress) (text : List Char) : Except Stop Json :=
  match _scanned : Token.scan? (text.dropWhile Token.isSpace) with
  | none =>
    match text.dropWhile Token.isSpace, progress with
    | [], .done answer => .ok answer
    | rest, _ => .error (.malformed progress.fault rest.length)
  | some (token, later) =>
    match progress.step? nesting token with
    | none => .error (.malformed progress.fault (text.dropWhile Token.isSpace).length)
    | some (.error stop) => .error stop
    | some (.ok progress) => run nesting progress later
termination_by text.length
decreasing_by
  have shorter := Token.scan?_shorter _scanned
  have skipped := List.IsSuffix.length_le (List.dropWhile_suffix Token.isSpace (l := text))
  omega

end Progress

/-- Reads a whole text as one value. A mark of the byte order does not belong to it. -/
def read (nesting : Nat) (text : List Char) : Except ReadError Json :=
  if text.head? = some '\ufeff' then .error (.malformed .byteOrderMark ⟨0, 1, 1⟩)
  else ((Progress.value [] false).run nesting text).mapError (Stop.error text)

end NodeHistory.Json

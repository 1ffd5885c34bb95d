import NodeHistory.Text.Digit

/-!
Expressions, of which literals are some. Only so much of an expression is kept as tells what it
is: whether it is a literal, whether it may stand where something is assigned, and what it is
called when it may not.
-/

namespace NodeHistory.Literal

inductive Form where
  | name (text : String)
  | constant (text : String)
  | ellipsis
  | numeral (text : String)
  | text
  | bytes
  /-- A quotation with expressions in it. -/
  | formatted
  | tuple
  | set
  | dict
  | pair
  | unpackedPairs
  | starred
  /-- A row of attributes and calls behind what they belong to. -/
  | chain
  | access
  | call
  | arguments
  | keyword
  | keywords
  | signed
  | sum
  | operation
  | comparison
  | membership
  | relation
  | conditional
  | function
  | assignment
  | delivery
  | awaiting
  | generator
  | setComprehension
  | dictComprehension
  | clause
deriving DecidableEq, Repr

inductive Expression where
  | node (form : Form) (operands : List Expression)

namespace Expression

def form : Expression → Form
  | .node form _ => form

def operands : Expression → List Expression
  | .node _ operands => operands

/-- What an expression is called in a complaint about it. -/
def description : Expression → String
  | .node form operands =>
    match form with
    | .name _ => "name"
    | .constant text => text
    | .ellipsis => "ellipsis"
    | .numeral _ | .text | .bytes => "literal"
    | .formatted => "f-string expression"
    | .tuple => "tuple"
    | .set => "set display"
    | .dict => "dict literal"
    | .starred => "starred"
    | .chain =>
      match operands.getLast? with
      | some (.node .access _) => "attribute"
      | _ => "function call"
    | .access => "attribute"
    | .comparison => "comparison"
    | .conditional => "conditional expression"
    | .function => "lambda"
    | .assignment => "named expression"
    | .delivery => "yield expression"
    | .awaiting => "await expression"
    | .generator => "generator expression"
    | .setComprehension => "set comprehension"
    | .dictComprehension => "dict comprehension"
    | _ => "expression"

mutual

/-- The first part of an expression to which nothing can be assigned. In what should have been a
loop's target and its source a membership is the two of them. -/
def unassignable? : Expression → Option Expression
  | .node .tuple items => firstUnassignable? items
  | .node .starred operands => firstUnassignable? operands
  | .node .comparison (target :: .node .membership _ :: _) => unassignable? target
  | .node .comparison _ => none
  | .node (.name _) _ => none
  | .node .access _ => none
  | .node .chain operands =>
    match operands.getLast? with
    | some (.node .access _) => none
    | _ => some (.node .chain operands)
  | e => some e

def firstUnassignable? : List Expression → Option Expression
  | [] => none
  | e :: rest =>
    match unassignable? e with
    | some part => some part
    | none => firstUnassignable? rest

end

/-- Words that were statements once and are still written like ones. -/
def isLegacyName (e : Expression) : Bool := e.form = .name "print" || e.form = .name "exec"

/-- Arguments without a name. -/
def positionalCount (e : Expression) : Nat :=
  (e.operands.filter fun o => o.form ≠ .keyword && o.form ≠ .keywords && o.form ≠ .clause).length

end Expression

/-- Why the tokens of a text make no expression. -/
inductive Refusal where
  | noExpression
  | unexpectedIndent
  | unexpectedDedent
  | nullCharacter
  | forgottenComma
  | elseExpected
  | oldCall (name : String)
  | maybeEquality
  | unassignable (description : String)
  | unassignableHere (description : String)
  | unnameable (description : String)
  | equalityInArgument
  | bareStar
  | starredGroup
  | doublyStarredGroup
  | starredSource
  | doublyStarredSource
  | bareTarget
  | starredValue
  | valueExpected
  | colonExpected
  | bareGenerator
  | afterKeyword
  | afterKeywords
  | starredAfterKeywords
  | defaultExpected
  | parameterAfterDefault
  | groupedParameters
  | nothingBeforeSlash
  | secondSlash
  | slashAfterStar
  | commaExpectedAfterSlash
  | nothingAfterStar
  | starredDefault
  | secondStar
  | doublyStarredDefault
  | parameterAfterLast
  | mixedQuotations
  | wideBytes
  | badEscape (first last : Nat) (reason : String)
  | badByteEscape (place : Nat)
  | longNumeral (count : Nat)
  | badFormat (reason : String)
  | badPart (reason : String)
deriving DecidableEq, Repr

namespace Refusal

def text : Refusal → String
  | .noExpression => "invalid syntax"
  | .unexpectedIndent => "unexpected indent"
  | .unexpectedDedent => "unexpected unindent"
  | .nullCharacter => "source code string cannot contain null bytes"
  | .forgottenComma => "invalid syntax. Perhaps you forgot a comma?"
  | .elseExpected => "expected 'else' after 'if' expression"
  | .oldCall name =>
    "Missing parentheses in call to '" ++ name ++ "'. Did you mean " ++ name ++ "(...)?"
  | .maybeEquality => "invalid syntax. Maybe you meant '==' or ':=' instead of '='?"
  | .unassignable description => "cannot assign to " ++ description
  | .unassignableHere description =>
    "cannot assign to " ++ description ++ " here. Maybe you meant '==' instead of '='?"
  | .unnameable description => "cannot use assignment expressions with " ++ description
  | .equalityInArgument =>
    "expression cannot contain assignment, perhaps you meant \"==\"?"
  | .bareStar => "Invalid star expression"
  | .starredGroup => "cannot use starred expression here"
  | .doublyStarredGroup => "cannot use double starred expression here"
  | .starredSource => "iterable unpacking cannot be used in comprehension"
  | .doublyStarredSource => "dict unpacking cannot be used in dict comprehension"
  | .bareTarget => "did you forget parentheses around the comprehension target?"
  | .starredValue => "cannot use a starred expression in a dictionary value"
  | .valueExpected => "expression expected after dictionary key and ':'"
  | .colonExpected => "':' expected after dictionary key"
  | .bareGenerator => "Generator expression must be parenthesized"
  | .afterKeyword => "positional argument follows keyword argument"
  | .afterKeywords => "positional argument follows keyword argument unpacking"
  | .starredAfterKeywords => "iterable argument unpacking follows keyword argument unpacking"
  | .defaultExpected => "expected default value expression"
  | .parameterAfterDefault => "non-default argument follows default argument"
  | .groupedParameters => "Lambda expression parameters cannot be parenthesized"
  | .nothingBeforeSlash => "at least one argument must precede /"
  | .secondSlash => "/ may appear only once"
  | .slashAfterStar => "/ must be ahead of *"
  | .commaExpectedAfterSlash => "expected comma between / and *"
  | .nothingAfterStar => "named arguments must follow bare *"
  | .starredDefault => "var-positional argument cannot have default value"
  | .secondStar => "* argument may appear only once"
  | .doublyStarredDefault => "var-keyword argument cannot have default value"
  | .parameterAfterLast => "arguments cannot follow var-keyword argument"
  | .mixedQuotations => "cannot mix bytes and nonbytes literals"
  | .wideBytes => "bytes can only contain ASCII literal characters"
  | .badEscape first last reason =>
    "(unicode error) 'unicodeescape' codec can't decode " ++
      (if first = last then "byte 0x5c in position " ++ toString first
       else "bytes in position " ++ toString first ++ "-" ++ toString last) ++ ": " ++ reason
  | .badByteEscape place => "(value error) invalid \\x escape at position " ++ toString place
  | .longNumeral count =>
    (Text.NumberFault.tooManyDigits count).text ++
      " - Consider hexadecimal for huge integer literals to avoid decimal conversion limits."
  | .badFormat reason => "f-string: " ++ reason
  | .badPart reason => "f-string expression part " ++ reason

end Refusal

end NodeHistory.Literal

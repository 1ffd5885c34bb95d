import NodeHistory.Literal.Expression
import NodeHistory.Literal.Token

/-!
The grammar of expressions. A rule has alternatives, of which the first that fits is taken for
good. Some rules only describe mistakes: what fits one of them is refused with a reason, and they
are tried when the other rules have found nothing. Square brackets have no rules here, for they
end the text in which a literal stands.
-/

namespace NodeHistory.Literal

inductive Rule where
  | literal
  | braced
  | expressions
  | expression
  | plainExpression
  | delivery
  | starExpressions
  | starExpression
  | members
  | member
  | assignment
  | namedExpression
  | disjunction
  | conjunction
  | inversion
  | comparison
  | comparisonTail
  | bitOr
  | bitXor
  | bitAnd
  | shift
  | sum
  | term
  | factor
  | power
  | awaiting
  | primary
  | primaryTail
  | atom
  | quotations
  | group
  | function
  | tuple
  | set
  | dict
  | entries
  | entry
  | keyValue
  | clauses
  | clause
  | setComprehension
  | dictComprehension
  | generator
  | arguments
  | argumentList
  | positional
  | namedArguments
  | starredArgument
  | namedOrStarred
  | namedOrKeywords
  | targets
  | target
  | targetAtom
  | bareTarget
  | targetItems
  | targetPrimary
  | targetTail
  | targetStep
  | parameters
  | parameterRow
  | slashPlain
  | slashDefault
  | starParameters
  | lastParameter
  | plainParameter
  | defaultParameter
  | anyParameter
  | default
  | faultyExpression
  | oldCall
  | faultyAssignment
  | faultyGroup
  | faultyEntries
  | faultyEntry
  | faultyComprehension
  | faultyDictComprehension
  | faultyTarget
  | faultyArguments
  | faultyKeyword
  | faultyParameters
  | defaultsFirst
  | faultyStar
  | faultyLast
  | faultyDefault
deriving DecidableEq, Repr, Hashable

inductive Pattern where
  /-- A mark or a keyword. -/
  | word (text : String)
  | kind (kind : TokenKind)
  /-- A name that is a keyword in other places. -/
  | softWord
  /-- A row of quotations, which are one. -/
  | quotationRow
  | rule (rule : Rule)
  | optional (parts : List Pattern)
  | many (parts : List Pattern)
  | some (parts : List Pattern)
  /-- One or more with commas between them. -/
  | separated (parts : List Pattern)
  | either (choices : List (List Pattern))
  | ahead (parts : List Pattern)
  | notAhead (parts : List Pattern)
  /-- From here on the other alternatives of the rule are out. -/
  | commit

instance : Coe String Pattern := ⟨.word⟩

instance : Coe Rule Pattern := ⟨.rule⟩

/-- What becomes of the expressions in an alternative. -/
inductive Outcome where
  | same
  | form (form : Form)
  /-- A single expression stays what it is. -/
  | joint (form : Form)
  /-- Refuses what has been found, given its expressions and the last token. -/
  | refusal (judge : List Expression → Token → Option Refusal)

structure Alternative where
  parts : List Pattern
  outcome : Outcome := .same
  /-- It describes a mistake, or leads to rules that do. -/
  strict : Bool := false

namespace Rule

/-- An alternative that is tried only in search of a mistake. -/
def mistake (rule : Rule) : Alternative := { parts := [rule], strict := true }

def making (form : Form) (parts : List Pattern) : Alternative := { parts, outcome := .form form }

def joining (form : Form) (parts : List Pattern) : Alternative := { parts, outcome := .joint form }

def refusing (reason : Refusal) (parts : List Pattern) : Alternative :=
  { parts, outcome := .refusal fun _ _ => some reason }

def judging (judge : List Expression → Option Refusal) (parts : List Pattern) : Alternative :=
  { parts, outcome := .refusal fun operands _ => judge operands }

/-- Operands of one rule with one of the given marks between them. -/
def chained (operand : Rule) (marks : List String) : List Pattern :=
  [operand, .many [.either (marks.map fun mark => [.word mark]), operand]]

def name : Pattern := .kind .name

def openBrace : Pattern := .word "\x7b"

def closeBrace : Pattern := .word "\x7d"

def firstDescription (reason : String → Refusal) (operands : List Expression) : Option Refusal :=
  operands.head?.map fun e => reason e.description

/-- Two expressions side by side are a mistake within brackets only. -/
def forgottenComma (operands : List Expression) (last : Token) : Option Refusal :=
  if operands.head?.any Expression.isLegacyName || last.level = 0 then none
  else some .forgottenComma

def oldCallOf : List Expression → Option Refusal
  | .node (.name text) operands :: _ =>
    if (Expression.node (.name text) operands).isLegacyName then some (.oldCall text) else none
  | _ => none

def targetOf (operands : List Expression) : Option Refusal := do
  let part ← (← operands.head?).unassignable?
  return .unassignable part.description

/-- A generator without brackets may be the only argument. -/
def bareGeneratorOf (operands : List Expression) : Option Refusal :=
  if operands.head?.any (1 < ·.positionalCount) then some .bareGenerator else none

def argumentOrderOf (operands : List Expression) : Option Refusal :=
  operands.head?.map fun arguments =>
    if arguments.operands.any (·.form = .keywords) then .afterKeywords else .afterKeyword

/-- The alternatives of a rule in the order in which they are tried. -/
def alternatives : Rule → List Alternative
  | literal => [{ parts := [expressions, .many [.kind .newline], .kind .finish] }]
  | braced => [{ parts := [starExpressions] }]
  | expressions => [
    making .tuple [expression, .some [",", expression], .optional [","]],
    making .tuple [expression, ","],
    { parts := [expression] }]
  | expression => [
    mistake faultyExpression,
    mistake oldCall,
    making .conditional [disjunction, "if", disjunction, "else", expression],
    { parts := [disjunction] },
    { parts := [function] }]
  | plainExpression => [
    making .conditional [disjunction, "if", disjunction, "else", expression],
    { parts := [disjunction] },
    { parts := [function] }]
  | delivery => [
    making .delivery ["yield", "from", expression],
    making .delivery ["yield", .optional [starExpressions]]]
  | starExpressions => [
    making .tuple [starExpression, .some [",", starExpression], .optional [","]],
    making .tuple [starExpression, ","],
    { parts := [starExpression] }]
  | starExpression => [
    making .starred ["*", bitOr],
    { parts := [expression] }]
  | members => [{ parts := [.separated [member], .optional [","]] }]
  | member => [
    making .starred ["*", bitOr],
    { parts := [namedExpression] }]
  | assignment => [making .assignment [name, ":=", .commit, expression]]
  | namedExpression => [
    { parts := [assignment] },
    mistake faultyAssignment,
    { parts := [expression, .notAhead [":="]] }]
  | disjunction => [joining .operation (chained conjunction ["or"])]
  | conjunction => [joining .operation (chained inversion ["and"])]
  | inversion => [
    making .operation ["not", inversion],
    { parts := [comparison] }]
  | comparison => [joining .comparison [bitOr, .many [comparisonTail]]]
  | comparisonTail => [
    making .relation
      [.either [["=="], ["!="], ["<="], ["<"], [">="], [">"], ["not", "in"]], bitOr],
    making .membership ["in", bitOr],
    making .relation ["is", "not", bitOr],
    making .relation ["is", bitOr]]
  | bitOr => [joining .operation (chained bitXor ["|"])]
  | bitXor => [joining .operation (chained bitAnd ["^"])]
  | bitAnd => [joining .operation (chained shift ["&"])]
  | shift => [joining .operation (chained sum ["<<", ">>"])]
  | sum => [joining .sum (chained term ["+", "-"])]
  | term => [joining .operation (chained factor ["*", "/", "//", "%", "@"])]
  | factor => [
    making .signed ["+", factor],
    making .signed ["-", factor],
    making .operation ["~", factor],
    { parts := [power] }]
  | power => [joining .operation [awaiting, .optional ["**", factor]]]
  | awaiting => [
    making .awaiting ["await", primary],
    { parts := [primary] }]
  | primary => [joining .chain [atom, .many [primaryTail]]]
  | primaryTail => [
    making .access [".", name],
    making .call [generator],
    making .call ["(", .optional [arguments], ")"]]
  | atom => [
    { parts := [name] },
    making (.constant "True") ["True"],
    making (.constant "False") ["False"],
    making (.constant "None") ["None"],
    { parts := [.ahead [.kind .quotation], quotations] },
    { parts := [.kind .numeral] },
    { parts := [.ahead ["("], .either [[tuple], [group], [generator]]] },
    { parts := [.ahead [openBrace],
        .either [[dict], [set], [dictComprehension], [setComprehension]]] },
    making .ellipsis ["..."]]
  | quotations => [{ parts := [.quotationRow] }]
  | group => [
    { parts := ["(", .either [[delivery], [namedExpression]], ")"] },
    mistake faultyGroup]
  | function => [making .function ["lambda", .optional [parameters], ":", expression]]
  | tuple => [making .tuple ["(", .optional [member, ",", .optional [members]], ")"]]
  | set => [making .set [openBrace, members, closeBrace]]
  | dict => [
    making .dict [openBrace, .optional [entries], closeBrace],
    { parts := [openBrace, faultyEntries, closeBrace] }]
  | entries => [{ parts := [.separated [entry], .optional [","]] }]
  | entry => [
    making .unpackedPairs ["**", bitOr],
    { parts := [keyValue] }]
  | keyValue => [making .pair [expression, ":", expression]]
  | clauses => [{ parts := [.some [clause]] }]
  | clause => [
    making .clause ["async", "for", targets, "in", .commit, disjunction,
      .many ["if", disjunction]],
    making .clause ["for", targets, "in", .commit, disjunction, .many ["if", disjunction]],
    mistake faultyTarget]
  | setComprehension => [
    making .setComprehension [openBrace, namedExpression, clauses, closeBrace],
    mistake faultyComprehension]
  | dictComprehension => [
    making .dictComprehension [openBrace, keyValue, clauses, closeBrace],
    mistake faultyDictComprehension]
  | generator => [
    making .generator
      ["(", .either [[assignment], [expression, .notAhead [":="]]], clauses, ")"],
    mistake faultyComprehension]
  | arguments => [
    { parts := [argumentList, .optional [","], .ahead [")"]] },
    mistake faultyArguments]
  | argumentList => [
    making .arguments [.separated [positional], .optional [",", namedArguments]],
    making .arguments [namedArguments]]
  | positional => [
    { parts := [starredArgument] },
    { parts := [.either [[assignment], [expression, .notAhead [":="]]], .notAhead ["="]] }]
  | namedArguments => [
    { parts := [.separated [namedOrStarred], ",", .separated [namedOrKeywords]] },
    { parts := [.separated [namedOrStarred]] },
    { parts := [.separated [namedOrKeywords]] }]
  | starredArgument => [
    making .starred ["*", expression],
    refusing .bareStar ["*"]]
  | namedOrStarred => [
    mistake faultyKeyword,
    making .keyword [name, "=", expression],
    { parts := [starredArgument] }]
  | namedOrKeywords => [
    mistake faultyKeyword,
    making .keyword [name, "=", expression],
    making .keywords ["**", expression]]
  | targets => [
    { parts := [target, .notAhead [","]] },
    making .tuple [target, .many [",", target], .optional [","]]]
  | target => [
    making .starred ["*", .notAhead ["*"], target],
    { parts := [targetAtom] }]
  | targetAtom => [
    making .access [targetPrimary, ".", name, .notAhead [targetTail]],
    { parts := [bareTarget] }]
  | bareTarget => [
    { parts := [name] },
    { parts := ["(", targetAtom, ")"] },
    making .tuple ["(", .optional [targetItems], ")"]]
  | targetItems => [
    { parts := [target, .some [",", target], .optional [","]] },
    { parts := [target, ","] }]
  | targetPrimary => [
    joining .chain [atom, .ahead [targetTail], .many [targetStep]]]
  | targetTail => [{ parts := ["("] }, { parts := ["."] }]
  | targetStep => [
    making .access [".", name, .ahead [targetTail]],
    making .call [generator, .ahead [targetTail]],
    making .call ["(", .optional [arguments], ")", .ahead [targetTail]]]
  | parameters => [
    mistake faultyParameters,
    { parts := [parameterRow] }]
  | parameterRow => [
    { parts := [slashPlain, .many [plainParameter], .many [defaultParameter],
        .optional [starParameters]] },
    { parts := [slashDefault, .many [defaultParameter], .optional [starParameters]] },
    { parts := [.some [plainParameter], .many [defaultParameter], .optional [starParameters]] },
    { parts := [.some [defaultParameter], .optional [starParameters]] },
    { parts := [starParameters] }]
  | slashPlain => [
    { parts := [.some [plainParameter], "/", ","] },
    { parts := [.some [plainParameter], "/", .ahead [":"]] }]
  | slashDefault => [
    { parts := [.many [plainParameter], .some [defaultParameter], "/", ","] },
    { parts := [.many [plainParameter], .some [defaultParameter], "/", .ahead [":"]] }]
  | starParameters => [
    mistake faultyStar,
    { parts := ["*", plainParameter, .many [anyParameter], .optional [lastParameter]] },
    { parts := ["*", ",", .some [anyParameter], .optional [lastParameter]] },
    { parts := [lastParameter] }]
  | lastParameter => [
    mistake faultyLast,
    { parts := ["**", plainParameter] }]
  | plainParameter => [
    { parts := [name, ","] },
    { parts := [name, .ahead [":"]] }]
  | defaultParameter => [
    { parts := [name, default, ","] },
    { parts := [name, default, .ahead [":"]] }]
  | anyParameter => [
    { parts := [name, .optional [default], ","] },
    { parts := [name, .optional [default], .ahead [":"]] }]
  | default => [
    { parts := ["=", expression] },
    mistake faultyDefault]
  | faultyExpression => [
    { parts := [.notAhead [.either [[name, .kind .quotation], [.softWord]]], disjunction,
        plainExpression]
      outcome := .refusal forgottenComma },
    refusing .elseExpected
      [disjunction, "if", disjunction, .notAhead [.either [["else"], [":"]]]]]
  | oldCall => [judging oldCallOf [name, .notAhead ["("], starExpressions]]
  | faultyAssignment => [
    judging (firstDescription .unnameable) [expression, ":=", expression],
    refusing .maybeEquality [name, "=", bitOr, .notAhead [.either [["="], [":="]]]],
    judging (firstDescription .unassignableHere)
      [.notAhead [.either [[tuple], [generator], ["True"], ["None"], ["False"]]], bitOr, "=",
        bitOr, .notAhead [.either [["="], [":="]]]]]
  | faultyGroup => [
    refusing .starredGroup ["(", starredArgument, ")"],
    refusing .doublyStarredGroup ["(", "**", expression, ")"]]
  | faultyEntries => [
    { parts := [.separated [entry], ",", faultyEntry] },
    refusing .starredValue [expression, ":", "*", bitOr],
    refusing .valueExpected [expression, ":", .ahead [.either [[closeBrace], [","]]]]]
  | faultyEntry => [
    refusing .colonExpected [expression, .notAhead [":"]],
    refusing .starredValue [expression, ":", "*", bitOr],
    refusing .valueExpected [expression, ":", .ahead [.either [[closeBrace], [","]]]]]
  | faultyComprehension => [
    refusing .starredSource [.either [["("], [openBrace]], starredArgument, clauses],
    refusing .bareTarget [openBrace, member, ",", members, clauses],
    refusing .bareTarget [openBrace, member, ",", clauses]]
  | faultyDictComprehension => [
    refusing .doublyStarredSource [openBrace, "**", bitOr, clauses, closeBrace]]
  | faultyTarget => [judging targetOf [.optional ["async"], "for", starExpressions]]
  | faultyArguments => [
    refusing .starredAfterKeywords [argumentList, ",", starredArgument],
    refusing .bareGenerator
      [expression, clauses, ",", .optional [.either [[argumentList], [expression, clauses]]]],
    refusing .maybeEquality [name, "=", expression, clauses],
    judging bareGeneratorOf [argumentList, clauses],
    refusing .bareGenerator [argumentList, ",", expression, clauses],
    judging argumentOrderOf [argumentList, ",", argumentList]]
  | faultyKeyword => [
    refusing (.unassignable "True") ["True", "="],
    refusing (.unassignable "False") ["False", "="],
    refusing (.unassignable "None") ["None", "="],
    refusing .maybeEquality [name, "=", expression, clauses],
    refusing .equalityInArgument [.notAhead [name, "="], expression, "="]]
  | faultyParameters => [
    refusing .parameterAfterDefault [.many [plainParameter], defaultsFirst, plainParameter],
    refusing .groupedParameters
      [.many [plainParameter], "(", .separated [name], .optional [","], ")"],
    refusing .nothingBeforeSlash ["/", ","],
    refusing .secondSlash
      [.either [[slashPlain], [slashDefault]], .many [anyParameter], "/"],
    refusing .slashAfterStar
      [.optional [.either [[slashPlain], [slashDefault]]], .many [anyParameter], "*",
        .either [[","], [plainParameter]], .many [anyParameter], "/"],
    refusing .commaExpectedAfterSlash [.some [anyParameter], "/", "*"]]
  | defaultsFirst => [
    { parts := [slashDefault] },
    { parts := [.some [defaultParameter]] }]
  | faultyStar => [
    refusing .nothingAfterStar ["*", .either [[":"], [",", .either [[":"], ["**"]]]]],
    refusing .starredDefault ["*", name, "="],
    refusing .secondStar
      ["*", .either [[plainParameter], [","]], .many [anyParameter], "*",
        .either [[plainParameter], [","]]]]
  | faultyLast => [
    refusing .doublyStarredDefault ["**", name, "="],
    refusing .parameterAfterLast ["**", name, ",", name],
    refusing .parameterAfterLast ["**", name, ",", .either [["*"], ["**"], ["/"]]]]
  | faultyDefault => [refusing .defaultExpected ["=", .ahead [.either [[")"], [","]]]]]

/-- Rules of which the reader remembers what it has found at a place. -/
def isRemembered : Rule → Bool
  | expression | starExpression | disjunction | conjunction | inversion | factor => true
  | bitOr | bitXor | bitAnd | shift | sum | term => true
  | awaiting | primary | quotations | arguments | target | targetAtom | targetPrimary => true
  | faultyAssignment => true
  | _ => false

/-- No mistakes are looked for within this rule. -/
def isLenient (rule : Rule) : Bool := rule = plainExpression

end Rule

end NodeHistory.Literal

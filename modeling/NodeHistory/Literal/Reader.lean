import NodeHistory.Literal.Formatted
import NodeHistory.Literal.Grammar
import Std.Data.HashMap

/-!
Reading an expression by the rules of the grammar. The tokens are gone through once without the
rules for mistakes. If that finds nothing, they are gone through again with them, and the first
mistake that fits is the reason; if none fits the reason is a general one. A loud fault of the
tokens that have not been looked at yet goes before a reason of either kind.
-/

namespace NodeHistory.Literal

/-- What a rule has found at a place: expressions, and the place behind them. -/
abbrev Found := Option (List Expression × Nat)

/-- How many tokens have been looked at, and what rules have found so far. -/
structure Memory where
  reached : Nat := 0
  known : Std.HashMap (Rule × Nat) Found := {}

abbrev Attempt := EStateM Fault Memory

structure Source where
  tokens : Tokens
  /-- Tells whether the text of an expression within a quotation is one. -/
  judge : List Char → Except Fault Unit

/-- How an alternative has ended. -/
inductive Ending where
  | found (operands : List Expression) (place : Nat)
  | failed (committed : Bool)

/-- Rules within rules up to this depth are followed. -/
def deepestRule : Nat := 6000

namespace Source

def token (s : Source) (place : Nat) : Attempt Token := do
  match s.tokens.items[place]? with
  | some t =>
    modify fun m => { m with reached := max m.reached (place + 1) }
    return t
  | none => throw (.scanning (s.tokens.fault?.getD .unexpectedEnd))

/-- The expressions that a single token is. -/
def operandsOf (t : Token) : Attempt (List Expression) :=
  match t.kind with
  | .name => return [.node (.name t.text) []]
  | .numeral =>
    match Numeral.whole? t.text.toList with
    | some (10, figures) =>
      if Text.longestNumber < figures.length then
        throw (.refused (.longNumeral figures.length))
      else return [.node (.numeral t.text) []]
    | _ => return [.node (.numeral t.text) []]
  | _ => return []

/-- The texts of the quotations from a place on. -/
def quotationRow (s : Source) : (rounds place : Nat) → Attempt (List Quotation)
  | 0, _ => return []
  | rounds + 1, place => do
    let t ← s.token place
    if t.kind = .quotation then
      return .ofText t.text.toList :: (← quotationRow s rounds (place + 1))
    else return []

/-- The beginning of such a name counts as one. -/
def isSoftWord (t : Token) : Bool :=
  t.kind = .name && ["_", "case", "match"].any fun word => t.text.toList.isPrefixOf word.toList

def isWord (t : Token) (text : String) : Bool :=
  (t.kind = .mark || t.kind = .keyword) && t.text = text

mutual

/-- Tries a pattern at a place. `strict` tells whether mistakes are looked for, `level` how many
rules this is within. -/
def pattern (s : Source) (strict : Bool) : (rounds level : Nat) → Pattern → (place : Nat) →
    Attempt Found
  | 0, _, _, _ => throw .tooDeep
  | rounds + 1, level, p, place => do
    match p with
    | .word text =>
      let t ← s.token place
      return if isWord t text then some ([], place + 1) else none
    | .kind kind =>
      let t ← s.token place
      if t.kind = kind then return some (← operandsOf t, place + 1) else return none
    | .softWord =>
      let t ← s.token place
      return if isSoftWord t then some ([], place + 1) else none
    | .quotationRow =>
      let row ← s.quotationRow (s.tokens.items.size + 1) place
      match Quotation.joined s.judge none row with
      | .error fault => throw fault
      | .ok form =>
        if row.isEmpty then return none
        else return some ([.node form []], place + row.length)
    | .rule r => rule s strict rounds level r place
    | .optional parts =>
      match ← sequence s strict rounds level parts [] false place with
      | .found operands place => return some (operands, place)
      | .failed _ => return some ([], place)
    | .many parts => repeated s strict rounds level parts [] place
    | .some parts =>
      match ← sequence s strict rounds level parts [] false place with
      | .found operands place => repeated s strict rounds level parts operands.reverse place
      | .failed _ => return none
    | .separated parts =>
      match ← sequence s strict rounds level parts [] false place with
      | .found operands place =>
        repeated s strict rounds level (.word "," :: parts) operands.reverse place
      | .failed _ => return none
    | .either choices => firstOf s strict rounds level choices place
    | .ahead parts =>
      match ← sequence s strict rounds level parts [] false place with
      | .found _ _ => return some ([], place)
      | .failed _ => return none
    | .notAhead parts =>
      match ← sequence s strict rounds level parts [] false place with
      | .found _ _ => return none
      | .failed _ => return some ([], place)
    | .commit => return some ([], place)

/-- Tries patterns one after another; the operands so far are kept latest first. -/
def sequence (s : Source) (strict : Bool) : (rounds level : Nat) → List Pattern →
    (operands : List Expression) → (committed : Bool) → (place : Nat) → Attempt Ending
  | 0, _, _, _, _, _ => throw .tooDeep
  | _ + 1, _, [], operands, _, place => return .found operands.reverse place
  | rounds + 1, level, .commit :: parts, operands, _, place =>
    sequence s strict rounds level parts operands true place
  | rounds + 1, level, p :: parts, operands, committed, place => do
    match ← pattern s strict rounds level p place with
    | none => return .failed committed
    | some (more, place) =>
      sequence s strict rounds level parts (more.reverse ++ operands) committed place

/-- Tries patterns again and again. -/
def repeated (s : Source) (strict : Bool) : (rounds level : Nat) → List Pattern →
    (operands : List Expression) → (place : Nat) → Attempt Found
  | 0, _, _, _, _ => throw .tooDeep
  | rounds + 1, level, parts, operands, place => do
    match ← sequence s strict rounds level parts [] false place with
    | .failed _ => return some (operands.reverse, place)
    | .found more next => repeated s strict rounds level parts (more.reverse ++ operands) next

/-- The first of several choices that fits. -/
def firstOf (s : Source) (strict : Bool) : (rounds level : Nat) → List (List Pattern) →
    (place : Nat) → Attempt Found
  | 0, _, _, _ => throw .tooDeep
  | _ + 1, _, [], _ => return none
  | rounds + 1, level, parts :: choices, place => do
    match ← sequence s strict rounds level parts [] false place with
    | .found operands place => return some (operands, place)
    | .failed _ => firstOf s strict rounds level choices place

/-- Applies a rule. -/
def rule (s : Source) (strict : Bool) : (rounds level : Nat) → Rule → (place : Nat) →
    Attempt Found
  | 0, _, _, _ => throw .tooDeep
  | rounds + 1, level, r, place => do
    if deepestRule ≤ level then throw .tooDeep
    let memory ← get
    let known? := if r.isRemembered then memory.known.get? (r, place) else none
    match known? with
    | some found => return found
    | none =>
      let strict := strict && !r.isLenient
      let found ← alternatives s strict rounds (level + 1) r.alternatives place
      if r.isRemembered then
        modify fun m => { m with known := m.known.insert (r, place) found }
      return found

/-- The first alternative that fits decides, also if it is a mistake that is none after all. -/
def alternatives (s : Source) (strict : Bool) : (rounds level : Nat) → List Alternative →
    (place : Nat) → Attempt Found
  | 0, _, _, _ => throw .tooDeep
  | _ + 1, _, [], _ => return none
  | rounds + 1, level, alternative :: others, place => do
    if alternative.strict && !strict then alternatives s strict rounds level others place
    else match ← sequence s strict rounds level alternative.parts [] false place with
    | .failed true => return none
    | .failed false => alternatives s strict rounds level others place
    | .found operands next =>
      match alternative.outcome with
      | .same => return some (operands, next)
      | .form form => return some ([.node form operands], next)
      | .joint form =>
        match operands with
        | [_] => return some (operands, next)
        | _ => return some ([.node form operands], next)
      | .refusal judge =>
        match judge operands (← s.token (next - 1)) with
        | none => return none
        | some reason => throw (.refused reason)

end

/-- Every round goes into a part of a rule or to the next of a row of tokens. -/
def rounds (s : Source) : Nat := 10 * deepestRule + 10 * s.tokens.items.size

/-- Goes through the tokens with or without the rules for mistakes. Tells the outcome and how many
tokens have been looked at. -/
def attempt (s : Source) (strict : Bool) (start : Rule) : Except Fault Found × Nat :=
  match (s.rule strict s.rounds 0 start 0).run {} with
  | .ok found m => (.ok found, m.reached)
  | .error fault m => (.error fault, m.reached)

/-- A fault gives way to one of the tokens behind those that have been looked at, of which the last
one is given. A bracket that is left open counts only on an earlier line. -/
def overruled (s : Source) (fault : Fault) (last? : Option Token) : Fault :=
  match s.tokens.fault? with
  | none => fault
  | some behind =>
    if behind.isLoud then .scanning behind
    else match s.tokens.opened?, last? with
    | some (opening, line), some last =>
      if line < last.line then .scanning (.unclosed opening) else fault
    | _, _ => fault

/-- A fault with which an attempt has ended. Those of tokens and of depth stand, and so do the
others if nothing is left behind the tokens that have been looked at. -/
def settled (s : Source) (fault : Fault) (last? : Option Token) : Fault :=
  match fault with
  | .scanning _ | .tooDeep => fault
  | _ => if last?.any (·.isLast) then fault else s.overruled fault last?

/-- The last of the tokens that have been looked at. -/
def last? (s : Source) (reached : Nat) : Option Token := s.tokens.items[reached - 1]?

/-- Reads an expression. -/
def read (s : Source) (start : Rule) : Except Fault Expression :=
  match s.attempt false start with
  | (.error fault, reached) => .error (s.settled fault (s.last? reached))
  | (.ok (some (e :: _, _)), _) => .ok e
  | (.ok _, reached) =>
    match s.attempt true start with
    | (.error fault, reached) => .error (s.settled fault (s.last? reached))
    | (.ok _, reachedAgain) =>
      match (s.last? reached).map Token.kind with
      | some .indent => .error (.refused .unexpectedIndent)
      | some .dedent => .error (.refused .unexpectedDedent)
      | _ => .error (s.overruled (.refused .noExpression) (s.last? (max reached reachedAgain)))

end Source

/-- Quotations within quotations need other quotes than those around them, of which there are
four. -/
def deepestQuotation : Nat := 5

/-- Tells whether the text of an expression within quotations is one. -/
def judge : (depth : Nat) → List Char → Except Fault Unit
  | 0, _ => .error .tooDeep
  | depth + 1, text =>
    let tokens := Tokens.ofText ('(' :: text ++ [')', '\n'])
    match (Source.mk tokens (judge depth)).read .braced with
    | .ok _ => .ok ()
    | .error fault => .error (.inner fault)

/-- The expression that a text is. -/
def Expression.ofText (text : List Char) : Except Fault Expression :=
  if text.contains '\x00' then .error (.refused .nullCharacter)
  else (Source.mk (Tokens.ofText text) (judge deepestQuotation)).read .literal

end NodeHistory.Literal

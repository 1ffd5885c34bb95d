import NodeHistory.Literal.Fault
import NodeHistory.Literal.Quotation

/-!
Rows of quotations, which are one text. Bytes do not go together with other text, and a row with
a formatted quotation in it is formatted.
-/

namespace NodeHistory.Literal.Quotation

def badFormat (reason : String) : Fault := .refused (.badFormat reason)

def closingExpected : Fault := badFormat "expecting '\x7d'"

/-- Tells whether an expression is there at all, and whether it is one. What follows is what ends
it. -/
def checkExpression (judge : List Char → Except Fault Unit) (text rest : List Char) :
    Except Fault Unit :=
  if text.all fun c => c = ' ' || c = '\t' || c = '\n' || c = '\x0c' then
    match rest.head? with
    | some '\x7d' | none => .error (badFormat "empty expression not allowed")
    | some c => .error (badFormat ("expression required before '" ++ c.toString ++ "'"))
  else judge text

/-- An equals sign behind an expression, with the blanks that follow. -/
def skipEquals : List Char → List Char
  | '=' :: rest => rest.dropWhile fun c => c = ' ' || (9 ≤ c.toNat && c.toNat ≤ 13)
  | rest => rest

/-- A conversion is one of three letters. -/
def skipConversion : List Char → Except Fault (List Char)
  | ['!'] => .error closingExpected
  | '!' :: c :: rest =>
    if c = 's' ∨ c = 'r' ∨ c = 'a' then .ok rest
    else .error (badFormat "invalid conversion character: expected 's', 'r', or 'a'")
  | rest => .ok rest

/-- Goes through text and expressions up to the end, or in a format up to the brace that ends
it. -/
def parts (judge : List Char → Except Fault Unit) (raw : Bool) :
    (rounds level : Nat) → List Char → Except Fault (List Char)
  | 0, _, _ => .error closingExpected
  | rounds + 1, level, text => do
    let plain ← (plain raw (0 < level) false [] text).mapError .refused
    if let some fault := if raw then none else escapeFault? 0 plain.chars then
      throw (.refused fault)
    if plain.goesOn then parts judge raw rounds level plain.rest
    else match plain.rest with
    | '\x7b' :: rest => do
      if 2 ≤ level then throw (badFormat "expressions nested too deeply")
      let (text, rest) ← (expression 0 none [] [] rest).mapError .refused
      checkExpression judge text rest
      let rest := skipEquals rest
      if rest.isEmpty then throw closingExpected
      match ← skipConversion rest with
      | ':' :: format =>
        if format.isEmpty then throw closingExpected
        match ← parts judge raw rounds (level + 1) format with
        | '\x7d' :: rest => parts judge raw rounds level rest
        | _ => throw closingExpected
      | '\x7d' :: rest => parts judge raw rounds level rest
      | _ => throw closingExpected
    | rest => if 0 < level ∧ rest.isEmpty then throw closingExpected else return rest

/-- What a row of quotations is; `judge` is asked about expressions in them. -/
def joined (judge : List Char → Except Fault Unit) (form? : Option Form) :
    List Quotation → Except Fault Form
  | [] => .ok (form?.getD .text)
  | q :: rest => do
    let fault? :=
      if q.bytes then q.bytesFault?
      else if q.raw || q.formatted then none
      else escapeFault? 0 q.content
    if let some fault := fault? then throw (.refused fault)
    if form?.any fun form => q.bytes ≠ (form = .bytes) then throw (.refused .mixedQuotations)
    if q.formatted then
      let _ ← parts judge q.raw (q.content.length + 1) 0 q.content
    let form :=
      if q.bytes then Form.bytes
      else if q.formatted || form? = some .formatted then .formatted
      else .text
    joined judge (some form) rest

end NodeHistory.Literal.Quotation

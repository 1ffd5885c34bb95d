import NodeHistory.Literal.Reader

/-!
The value of a literal. Literals are constants, signed numbers, complex numbers written as a sum,
and tuples, sets and dictionaries of literals. Of a value only that is kept on which it depends
whether there is one: what may be in a set or a key, and how great a whole number is.
-/

namespace NodeHistory.Literal

/-- What is known of a value. -/
inductive Value where
  | whole (n : Nat)
  | real
  | imaginary
  | plain
  | tuple (items : List Value)
  | set
  | dict

/-- Why an expression has no value. -/
inductive ValueFault where
  | read (fault : Fault)
  | notLiteral
  /-- A dictionary takes in the pairs of another one. -/
  | unpackedPairs
  | unhashable (kind : String)
  | tooGreat
deriving DecidableEq, Repr

def ValueFault.text : ValueFault → String
  | .read fault => fault.text
  | .notLiteral => "malformed node or string"
  | .unpackedPairs => "malformed node or string: None"
  | .unhashable kind => "unhashable type: '" ++ kind ++ "'"
  | .tooGreat => "int too large to convert to float"

namespace Value

/-- Whole numbers from here on are nearer to infinity than to the greatest number of sixty-four
bits. -/
def firstTooGreat : Nat := Nat.pow 2 1024 - Nat.pow 2 970

mutual

/-- Sets and dictionaries cannot be told apart by a fixed number, nor can what holds them. -/
def checkHashable : Value → Except ValueFault Unit
  | .set => .error (.unhashable "set")
  | .dict => .error (.unhashable "dict")
  | .tuple items => checkAllHashable items
  | _ => .ok ()

def checkAllHashable : List Value → Except ValueFault Unit
  | [] => .ok ()
  | v :: rest =>
    match checkHashable v with
    | .ok _ => checkAllHashable rest
    | .error fault => .error fault

end

def ofNumeral (text : List Char) : Value :=
  match Numeral.whole? text with
  | some (base, figures) => .whole (Numeral.value base figures)
  | none => if Numeral.isImaginary text then .imaginary else .real

def numeral? : Expression → Option Value
  | .node (.numeral text) _ => some (ofNumeral text.toList)
  | _ => none

def signedNumeral? : Expression → Option Value
  | .node .signed [e] => numeral? e
  | e => numeral? e

/-- A sum is a literal if it has a real and an imaginary part in this order. -/
def ofSum (left right : Expression) : Except ValueFault Value :=
  match signedNumeral? left, numeral? right with
  | some (.whole n), some .imaginary =>
    if firstTooGreat ≤ n then .error .tooGreat else .ok .imaginary
  | some .real, some .imaginary => .ok .imaginary
  | _, _ => .error .notLiteral

mutual

def ofExpression : Expression → Except ValueFault Value
  | .node (.numeral text) _ => .ok (ofNumeral text.toList)
  | .node (.constant _) _ | .node .ellipsis _ | .node .text _ | .node .bytes _ => .ok .plain
  | .node .signed [e] =>
    match numeral? e with
    | some v => .ok v
    | none => .error .notLiteral
  | .node .sum [left, right] => ofSum left right
  | .node .chain [.node (.name name) _, .node .call []] =>
    if name = "set" then .ok .set else .error .notLiteral
  | .node .tuple items => do return .tuple (← ofItems false items)
  | .node .set items => do
    let _ ← ofItems true items
    return .set
  | .node .dict entries => do
    checkEntries entries
    return .dict
  | _ => .error .notLiteral

/-- The values of the members of a tuple or a set. -/
def ofItems (hashed : Bool) : List Expression → Except ValueFault (List Value)
  | [] => .ok []
  | e :: rest => do
    let v ← ofExpression e
    if hashed then checkHashable v
    return v :: (← ofItems hashed rest)

def checkEntries : List Expression → Except ValueFault Unit
  | [] => .ok ()
  | .node .pair [key, value] :: rest => do
    let key ← ofExpression key
    let _ ← ofExpression value
    checkHashable key
    checkEntries rest
  | .node .unpackedPairs _ :: _ => .error .unpackedPairs
  | _ :: _ => .error .notLiteral

end

end Value

/-- Tells whether a text is a literal. Blanks before it do not count. -/
def check (text : List Char) : Except ValueFault Unit := do
  let e ← (Expression.ofText (text.dropWhile fun c => c = ' ' || c = '\t')).mapError .read
  let _ ← Value.ofExpression e
  return ()

end NodeHistory.Literal

import NodeHistory.Text.Digit

/-!
Numerals: whole numbers to four bases, decimal fractions with an exponent, and imaginary numbers.
Single low lines may stand between figures. A numeral is not followed by a letter at once, except
where a connective such as `or` begins. Reading one answers with what is left behind it.
-/

namespace NodeHistory.Literal

inductive NumeralKind where
  | decimal
  | hexadecimal
  | octal
  | binary
  | imaginary
deriving DecidableEq, Repr

def NumeralKind.name : NumeralKind → String
  | .decimal => "decimal"
  | .hexadecimal => "hexadecimal"
  | .octal => "octal"
  | .binary => "binary"
  | .imaginary => "imaginary"

inductive NumeralFault where
  | malformed (kind : NumeralKind)
  | badFigure (figure : Char) (kind : NumeralKind)
  | leadingZeros
deriving DecidableEq, Repr

def NumeralFault.text : NumeralFault → String
  | .malformed kind => "invalid " ++ kind.name ++ " literal"
  | .badFigure figure kind =>
    "invalid digit '" ++ figure.toString ++ "' in " ++ kind.name ++ " literal"
  | .leadingZeros =>
    "leading zeros in decimal integer literals are not permitted; use an 0o prefix for octal " ++
      "integers"

namespace Numeral

def isWordPart (c : Char) : Bool := c.isAlphanum || c = '_'

/-- Words that may stand right behind a numeral, and beginnings of such words. -/
def connectives : List String := ["and", "else", "for", "not", "or"]

def connectiveBeginnings : List String := ["if", "in", "is"]

def beginsConnective (text : List Char) : Bool :=
  connectiveBeginnings.any (fun word => word.toList.isPrefixOf text) ||
    connectives.contains (String.ofList (text.takeWhile isWordPart))

def ended (kind : NumeralKind) (rest : List Char) : Except NumeralFault (List Char) :=
  if rest.head?.any isWordPart && !beginsConnective rest then .error (.malformed kind)
  else .ok rest

/-- What is left behind further decimal figures. -/
def afterFigures : List Char → Except NumeralFault (List Char)
  | '_' :: c :: rest => if c.isDigit then afterFigures rest else .error (.malformed .decimal)
  | ['_'] => .error (.malformed .decimal)
  | c :: rest => if c.isDigit then afterFigures rest else .ok (c :: rest)
  | [] => .ok []

def isImaginaryMark (c : Char) : Bool := c = 'j' || c = 'J'

def isExponentMark (c : Char) : Bool := c = 'e' || c = 'E'

def afterExponent : List Char → Except NumeralFault (List Char)
  | [] => .ok []
  | c :: rest => if isImaginaryMark c then ended .imaginary rest else ended .decimal (c :: rest)

/-- A mark without figures behind it is not part of the numeral. -/
def afterMantissa (text : List Char) : Except NumeralFault (List Char) :=
  match text with
  | mark :: sign :: figure :: rest =>
    if !isExponentMark mark then afterExponent text
    else if sign = '+' ∨ sign = '-' then
      if figure.isDigit then do afterExponent (← afterFigures rest)
      else .error (.malformed .decimal)
    else if sign.isDigit then do afterExponent (← afterFigures (figure :: rest))
    else ended .decimal text
  | [mark, figure] =>
    if isExponentMark mark ∧ figure.isDigit then .ok []
    else if isExponentMark mark ∧ (figure = '+' ∨ figure = '-') then .error (.malformed .decimal)
    else afterExponent text
  | _ => afterExponent text

/-- What is left behind a point and its figures. -/
def afterPoint : List Char → Except NumeralFault (List Char)
  | [] => .ok []
  | c :: rest =>
    if c.isDigit then do afterMantissa (← afterFigures rest) else afterMantissa (c :: rest)

/-- What is left behind figures to another base. A low line may be followed by a figure only; at
first and behind it a figure is owed. -/
def afterBased (kind : NumeralKind) (isFigure : Char → Bool) (mayDivide owed : Bool) :
    List Char → Except NumeralFault (List Char)
  | [] => if owed then .error (.malformed kind) else .ok []
  | c :: rest =>
    if isFigure c then afterBased kind isFigure true false rest
    else if c = '_' ∧ mayDivide then afterBased kind isFigure false true rest
    else if c.isDigit then .error (.badFigure c kind)
    else if owed then .error (.malformed kind)
    else ended kind (c :: rest)

def isHexFigure (c : Char) : Bool :=
  c.isDigit || ('a' ≤ c && c ≤ 'f') || ('A' ≤ c && c ≤ 'F')

def isOctalFigure (c : Char) : Bool := '0' ≤ c && c < '8'

def isBinaryFigure (c : Char) : Bool := c = '0' || c = '1'

/-- What is left behind zeros that begin a numeral. -/
def afterZeros : List Char → Except NumeralFault (List Char)
  | '0' :: rest => afterZeros rest
  | '_' :: c :: rest =>
    if c = '0' then afterZeros rest
    else if c.isDigit then .ok (c :: rest)
    else .error (.malformed .decimal)
  | ['_'] => .error (.malformed .decimal)
  | rest => .ok rest

/-- What is left behind the figures before a point or an exponent. Zeros may not begin a whole
number other than zero. -/
def afterWhole (zeros : Bool) (text : List Char) : Except NumeralFault (List Char) :=
  match text with
  | [] => if zeros then .error .leadingZeros else .ok []
  | c :: rest =>
    if c = '.' then afterPoint rest
    else if isExponentMark c then afterMantissa text
    else if isImaginaryMark c then ended .imaginary rest
    else if zeros then .error .leadingZeros
    else ended .decimal text

/-- What is left behind a numeral that begins with the given figure. -/
def after (figure : Char) (text : List Char) : Except NumeralFault (List Char) :=
  if figure ≠ '0' then do afterWhole false (← afterFigures text)
  else match text with
  | 'x' :: rest | 'X' :: rest => afterBased .hexadecimal isHexFigure true true rest
  | 'o' :: rest | 'O' :: rest => afterBased .octal isOctalFigure true true rest
  | 'b' :: rest | 'B' :: rest => afterBased .binary isBinaryFigure true true rest
  | _ => do
    match ← afterZeros text with
    | [] => .ok []
    | c :: rest =>
      if c.isDigit then afterWhole true (← afterFigures rest) else afterWhole false (c :: rest)

/-- The base and the figures of a whole number; `none` for the other numerals. -/
def whole? (text : List Char) : Option (Nat × List Char) :=
  let bare := text.filter (· ≠ '_')
  match bare with
  | '0' :: 'x' :: figures | '0' :: 'X' :: figures => some (16, figures)
  | '0' :: 'o' :: figures | '0' :: 'O' :: figures => some (8, figures)
  | '0' :: 'b' :: figures | '0' :: 'B' :: figures => some (2, figures)
  | _ => if bare.all Char.isDigit then some (10, bare) else none

def isImaginary (text : List Char) : Bool := text.getLast?.any isImaginaryMark

def figureValue (c : Char) : Nat :=
  if c.isDigit then c.toNat - '0'.toNat else c.toLower.toNat - 'a'.toNat + 10

/-- The value of figures to a base. -/
def value (base : Nat) (figures : List Char) : Nat :=
  figures.foldl (fun n c => n * base + figureValue c) 0

end Numeral

end NodeHistory.Literal

import NodeHistory.Literal.Bracket
import NodeHistory.Literal.Numeral
import NodeHistory.Text.Identifier
import NodeHistory.Text.Printable

/-!
The tokens of a literal. Lines end a token `newline` and begin with a margin, unless a bracket is
open. Brackets must match as they are read. Whatever is wrong with the text shows when the tokens
are taken one by one: some faults speak up wherever they are, others only if a reader gets there.
-/

namespace NodeHistory.Literal

inductive TokenKind where
  | name
  | keyword
  | numeral
  | quotation
  | mark
  | newline
  | indent
  | dedent
  | finish
deriving DecidableEq, Repr

/-- A token with its line, the number of brackets that are open behind it, and whether it takes the
end of the text to know that it ends there. -/
structure Token where
  kind : TokenKind
  text : String := ""
  line : Nat
  level : Nat
  isLast : Bool
deriving DecidableEq, Repr

inductive ScanFault where
  | numeral (fault : NumeralFault)
  | unterminated (long : Bool) (line : Nat)
  | badCharacter (c : Char)
  | unmatched (closing : Char)
  /-- The line of the opening bracket is told if it is another one. -/
  | mismatched (closing opening : Char) (line? : Option Nat)
  | tooNested
  | unclosed (opening : Char)
  | unexpectedEnd
  | badContinuation
  | unevenMargin
  | mixedMargin
  | tooManyMargins
deriving DecidableEq, Repr

namespace ScanFault

/-- The number of a character in at least four figures to the base sixteen. -/
def codePoint (c : Char) : String :=
  let figures := (Nat.toDigits 16 c.toNat).map Char.toUpper
  String.ofList (List.replicate (4 - figures.length) '0' ++ figures)

def text : ScanFault → String
  | .numeral fault => fault.text
  | .unterminated long line =>
    "unterminated " ++ (if long then "triple-quoted " else "") ++
      "string literal (detected at line " ++ toString line ++ ")"
  | .badCharacter c =>
    if Text.isPrintable c then
      "invalid character '" ++ c.toString ++ "' (U+" ++ codePoint c ++ ")"
    else "invalid non-printable character U+" ++ codePoint c
  | .unmatched closing => "unmatched '" ++ closing.toString ++ "'"
  | .mismatched closing opening line? =>
    "closing parenthesis '" ++ closing.toString ++ "' does not match opening parenthesis '" ++
      opening.toString ++ "'" ++ (line?.map fun n => " on line " ++ toString n).getD ""
  | .tooNested => "too many nested parentheses"
  | .unclosed opening => "'" ++ opening.toString ++ "' was never closed"
  | .unexpectedEnd => "unexpected EOF while parsing"
  | .badContinuation => "unexpected character after line continuation character"
  | .unevenMargin => "unindent does not match any outer indentation level"
  | .mixedMargin => "inconsistent use of tabs and spaces in indentation"
  | .tooManyMargins => "too many levels of indentation"

/-- Faults that are told wherever they stand. -/
def isLoud : ScanFault → Bool
  | .unclosed _ | .unexpectedEnd | .badContinuation => false
  | .unevenMargin | .mixedMargin | .tooManyMargins => false
  | _ => true

end ScanFault

def keywords : List String :=
  ["False", "None", "True", "and", "as", "assert", "async", "await", "break", "class", "continue",
   "def", "del", "elif", "else", "except", "finally", "for", "from", "global", "if", "import",
   "in", "is", "lambda", "nonlocal", "not", "or", "pass", "raise", "return", "try", "while",
   "with", "yield"]

/-- Marks of three and of two characters; every other character is a mark of its own. -/
def longMarks : List String :=
  ["**=", "...", "//=", "<<=", ">>=", "!=", "%=", "&=", "**", "*=", "+=", "-=", "->", "//", "/=",
   ":=", "<<", "<=", "<>", "==", ">=", ">>", "@=", "^=", "|="]

/-- Letters that may stand before a quotation, in small form. -/
def quotationLetters : List String := ["b", "r", "u", "f", "br", "rb", "fr", "rf"]

/-- What is left of a text on which line, which brackets are open there with their lines, the
innermost first, and the margins of the lines around, each in columns of eight and of one. -/
structure Scanner where
  rest : List Char
  line : Nat := 1
  opened : List (Char × Nat) := []
  margins : List (Nat × Nat) := []
  /-- A line begins here. -/
  fresh : Bool := true
  /-- Nothing but a comment stands on the line. -/
  blank : Bool := false
  /-- The tokens so far, latest first. -/
  tokens : List Token := []

namespace Scanner

def isGap (c : Char) : Bool := c = ' ' || c = '\t' || c = '\x0c'

def newlines (text : List Char) : Nat := text.count '\n'

/-- Quotations with something in them end with their last quote, whatever follows. -/
def endsByItself (kind : TokenKind) (text : List Char) : Bool :=
  kind = .quotation && 2 < (text.dropWhile Char.isAlpha).length

/-- Adds a token that ends where `rest` begins. -/
def add (s : Scanner) (kind : TokenKind) (text : List Char) (rest : List Char) : Scanner :=
  { s with
    rest
    line := s.line + newlines text
    tokens :=
      { kind, text := String.ofList text, line := s.line, level := s.opened.length
        isLast := rest.isEmpty && !endsByItself kind text } :: s.tokens }

/-- Adds what has been read from `text` up to `rest` as a token. -/
def addUpTo (s : Scanner) (kind : TokenKind) (text rest : List Char) : Scanner :=
  s.add kind (text.take (text.length - rest.length)) rest

/-- What a backslash at the end of a line leaves. -/
def continued : List Char → Except ScanFault (List Char)
  | '\n' :: rest => if rest.isEmpty then .error .unexpectedEnd else .ok rest
  | _ => .error .badContinuation

def deepestMargin : Nat := 100

/-- The blanks at the start of a line: their width in columns of eight and of one, and the scanner
behind them. The width before the first backslash counts. -/
def margin (s : Scanner) : (rounds column narrow held : Nat) → List Char →
    Except ScanFault ((Nat × Nat) × Scanner)
  | 0, _, _, _, _ => .error .unexpectedEnd
  | rounds + 1, column, narrow, held, text =>
    match text with
    | ' ' :: rest => margin s rounds (column + 1) (narrow + 1) held rest
    | '\t' :: rest => margin s rounds ((column / 8 + 1) * 8) (narrow + 1) held rest
    | '\x0c' :: rest => margin s rounds 0 0 held rest
    | '\\' :: rest => do
      let rest ← continued rest
      let held := if held = 0 then column else held
      margin { s with line := s.line + 1 } rounds column narrow held rest
    | _ =>
      .ok (if held = 0 then (column, narrow) else (held, held), { s with rest := text })

/-- Leaves the margins that a line has given up. -/
def dedent (s : Scanner) (column narrow : Nat) : List (Nat × Nat) → Except ScanFault Scanner
  | [] =>
    if column ≠ 0 then .error .unevenMargin
    else if narrow ≠ 0 then .error .mixedMargin
    else .ok { s with margins := [] }
  | (outer, outerNarrow) :: margins =>
    if column < outer then
      dedent (s.add .dedent [] s.rest) column narrow margins
    else if column ≠ outer then .error .unevenMargin
    else if narrow ≠ outerNarrow then .error .mixedMargin
    else .ok { s with margins := (outer, outerNarrow) :: margins }

/-- Compares the margin of a line with the one before. -/
def align (s : Scanner) (column narrow : Nat) : Except ScanFault Scanner :=
  let (outer, outerNarrow) := s.margins.headD (0, 0)
  if column = outer then
    if narrow = outerNarrow then .ok s else .error .mixedMargin
  else if outer < column then
    if deepestMargin ≤ s.margins.length + 1 then .error .tooManyMargins
    else if narrow ≤ outerNarrow then .error .mixedMargin
    else .ok { s.add .indent [] s.rest with margins := (column, narrow) :: s.margins }
  else dedent s column narrow s.margins

def startLine (s : Scanner) : Except ScanFault Scanner := do
  let ((column, narrow), s) ← s.margin (s.rest.length + 1) 0 0 0 s.rest
  let s := { s with fresh := false, blank := s.rest.head?.any fun c => c = '#' || c = '\n' }
  if s.blank || !s.opened.isEmpty then return s else s.align column narrow

/-- Where the text behind a quote ends it: what is left behind the closing quote, or, with
`false`, what is left where the text should not have ended. -/
def afterShort (quote : Char) : List Char → Bool × List Char
  | [] => (false, [])
  | '\n' :: rest => (false, '\n' :: rest)
  | ['\\'] => (false, [])
  | '\\' :: _ :: rest => afterShort quote rest
  | c :: rest => if c = quote then (true, rest) else afterShort quote rest

/-- The same for three quotes, of which `seen` have been read. -/
def afterLong (quote : Char) (seen : Nat) : List Char → Bool × List Char
  | [] | ['\\'] => (false, [])
  | '\\' :: _ :: rest => afterLong quote 0 rest
  | c :: rest =>
    if c ≠ quote then afterLong quote 0 rest
    else if seen = 2 then (true, rest)
    else afterLong quote (seen + 1) rest

/-- Reads a quotation whose first quote stands behind the given letters. -/
def quotation (s : Scanner) (letters : List Char) (quote : Char) (behind : List Char) :
    Except ScanFault Scanner :=
  let text := letters ++ quote :: behind
  let long := [quote, quote].isPrefixOf behind
  let (closed, rest) := if long then afterLong quote 0 (behind.drop 2) else afterShort quote behind
  if closed then .ok (s.addUpTo .quotation text rest)
  else
    let consumed := text.take (text.length - rest.length)
    let lines := newlines (if rest.isEmpty then consumed.dropLast else consumed)
    .error (.unterminated long (s.line + lines))

/-- Characters of which words are made up before it is known whether they may be. -/
def isWordPart (c : Char) : Bool := Numeral.isWordPart c || 127 < c.toNat

/-- The first character that does not belong where it stands in an identifier. -/
def misplaced? : List Char → Option Char
  | [] => none
  | c :: rest =>
    if !Text.beginsIdentifier c then some c else rest.find? (!Text.continuesIdentifier ·)

def word (s : Scanner) (text : List Char) : Except ScanFault Scanner :=
  let chars := text.takeWhile isWordPart
  match misplaced? chars with
  | some c => .error (.badCharacter c)
  | none =>
    let kind : TokenKind := if keywords.contains (String.ofList chars) then .keyword else .name
    .ok (s.add kind chars (text.drop chars.length))

/-- A quotation with letters before it, or else a word. -/
def wordOrQuotation (s : Scanner) (text : List Char) : Except ScanFault Scanner :=
  let letters := text.takeWhile Char.isAlpha
  match text.drop letters.length with
  | c :: rest =>
    if (c = '"' ∨ c = '\'') ∧ quotationLetters.contains (String.ofList letters).toLower then
      s.quotation letters c rest
    else s.word text
  | [] => s.word text

def deepestBracket : Nat := 200

/-- A mark of a single character. -/
def singleMark (s : Scanner) (c : Char) (rest : List Char) : Except ScanFault Scanner :=
  if Bracket.isOpening c then
    if deepestBracket ≤ s.opened.length then .error .tooNested
    else .ok ({ s with opened := (c, s.line) :: s.opened }.add .mark [c] rest)
  else if Bracket.isClosing c then
    match s.opened with
    | [] => .error (.unmatched c)
    | (opening, line) :: outer =>
      if Bracket.opposite c = opening then .ok ({ s with opened := outer }.add .mark [c] rest)
      else .error (.mismatched c opening (if line = s.line then none else some line))
  else if Text.isPrintable c then .ok (s.add .mark [c] rest)
  else .error (.badCharacter c)

def mark (s : Scanner) (text : List Char) : Except ScanFault Scanner :=
  match longMarks.find? fun long => long.toList.isPrefixOf text, text with
  | some long, _ => .ok (s.add .mark long.toList (text.drop long.length))
  | none, c :: rest => s.singleMark c rest
  | none, [] => .ok s

/-- Takes one token or one gap off a text that is not empty. -/
def step (s : Scanner) (text : List Char) : Except ScanFault Scanner :=
  match text with
  | [] => .ok s
  | '#' :: rest => .ok { s with rest := rest.dropWhile (· ≠ '\n') }
  | '\n' :: rest =>
    let ended := if s.blank || !s.opened.isEmpty then { s with rest, line := s.line + 1 }
      else s.add .newline ['\n'] rest
    .ok { ended with fresh := true, blank := false }
  | '\\' :: rest => do
    let rest ← continued rest
    return { s with rest, line := s.line + 1 }
  | '.' :: c :: rest =>
    if c.isDigit then do
      let left ← (Numeral.afterPoint (c :: rest)).mapError .numeral
      return s.addUpTo .numeral text left
    else s.mark text
  | c :: rest =>
    if c.isDigit then do
      let left ← (Numeral.after c rest).mapError .numeral
      return s.addUpTo .numeral text left
    else if c = '"' ∨ c = '\'' then s.quotation [] c rest
    else if isWordPart c then s.wordOrQuotation text
    else s.mark text

end Scanner

/-- The tokens of a text up to its end or to a fault. -/
structure Tokens where
  items : Array Token
  fault? : Option ScanFault := none
  /-- The innermost bracket that is open there, with its line. -/
  opened? : Option (Char × Nat) := none

namespace Tokens

/-- A text that ends too early while a bracket is open lacks the closing one. -/
def stopped (s : Scanner) (fault? : Option ScanFault) : Tokens where
  items := s.tokens.reverse.toArray
  fault? := match fault?, s.opened with
    | some .unexpectedEnd, (opening, _) :: _ => some (.unclosed opening)
    | _, _ => fault?
  opened? := s.opened.head?

/-- Takes tokens until the text ends. -/
def scan : (rounds : Nat) → Scanner → Tokens
  | 0, s => stopped s (some .unexpectedEnd)
  | rounds + 1, s =>
    if s.fresh then
      match s.startLine with
      | .error fault => stopped s (some fault)
      | .ok s => scan rounds s
    else match s.rest.dropWhile Scanner.isGap with
    | [] =>
      if s.opened.isEmpty then stopped (s.add .finish [] []) none
      else stopped s (some .unexpectedEnd)
    | text =>
      match s.step text with
      | .error fault => stopped s (some fault)
      | .ok s => scan rounds s

/-- All ends of lines in one form. -/
def withPlainLines : List Char → List Char
  | '\r' :: '\n' :: rest => '\n' :: withPlainLines rest
  | '\r' :: rest => '\n' :: withPlainLines rest
  | c :: rest => c :: withPlainLines rest
  | [] => []

/-- Every round reads a character or begins a line. -/
def ofText (text : List Char) : Tokens :=
  let text := withPlainLines text
  scan (2 * text.length + 3) { rest := text }

end Tokens

end NodeHistory.Literal

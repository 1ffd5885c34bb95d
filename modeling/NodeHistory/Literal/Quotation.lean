import NodeHistory.Literal.Bracket
import NodeHistory.Literal.Expression
import NodeHistory.Literal.Numeral

/-!
What stands between the quotes of a quotation. Unless a letter before them says otherwise,
backslashes begin escapes, which have to be complete. A formatted quotation holds expressions in
braces, each with a conversion and a format if there is need; a format may hold expressions again.
Braces that are meant as such are doubled.
-/

namespace NodeHistory.Literal

structure Quotation where
  raw : Bool
  bytes : Bool
  formatted : Bool
  content : List Char

namespace Quotation

def ofText (text : List Char) : Quotation :=
  let letters := (text.takeWhile Char.isAlpha).map Char.toLower
  let quoted := text.drop letters.length
  let quotes := match quoted with
    | a :: b :: c :: _ => if a = b ∧ b = c ∧ 6 ≤ quoted.length then 3 else 1
    | _ => 1
  { raw := letters.contains 'r'
    bytes := letters.contains 'b'
    formatted := letters.contains 'f'
    content := (quoted.drop quotes).take (quoted.length - 2 * quotes) }

/-- Escapes that spell a character's number, by their letter: how many figures they have. -/
def figureCount? : Char → Option Nat
  | 'x' => some 2
  | 'u' => some 4
  | 'U' => some 8
  | _ => none

/-- Places that a character takes where escapes are counted: one beyond the first 128 is counted as
the longest escape. -/
def places (c : Char) : Nat := if c.toNat < 128 then 1 else 10

def greatestCodePoint : Nat := 0x10ffff

/-- Names of characters consist of these; which names exist is not checked. -/
def mayBeName (name : List Char) : Bool :=
  name.all fun c => c.isAlphanum || c = ' ' || c = '-'

/-- The fault of an escape that names a character, given what stands behind its letter. -/
def nameFault? (place : Nat) (rest : List Char) : Option Refusal :=
  let malformed := "malformed \\N character escape"
  match rest with
  | '\x7b' :: rest =>
    let name := rest.takeWhile (· ≠ '\x7d')
    let width := (name.map places).foldl (· + ·) 0
    if name.length = rest.length then some (.badEscape place (place + 2 + width) malformed)
    else if name.isEmpty then some (.badEscape place (place + 2) malformed)
    else if mayBeName name then none
    else some (.badEscape place (place + 3 + width) "unknown Unicode character name")
  | _ => some (.badEscape place (place + 1) malformed)

/-- The fault of an escape that spells a number. -/
def numberFault? (place : Nat) (letter : Char) (count : Nat) (rest : List Char) :
    Option Refusal :=
  let figures := (rest.take count).takeWhile Numeral.isHexFigure
  let last := place + 1 + figures.length
  if figures.length < count then
    some (.badEscape place last
      ("truncated \\" ++ letter.toString ++ String.ofList (List.replicate count 'X') ++ " escape"))
  else if greatestCodePoint < Numeral.value 16 figures then
    some (.badEscape place last "illegal Unicode character")
  else none

/-- The first faulty escape of a text. -/
def escapeFault? (place : Nat) : List Char → Option Refusal
  | [] | ['\\'] => none
  | '\\' :: c :: rest =>
    if 128 ≤ c.toNat then escapeFault? (place + 6 + places c) rest
    else
      let fault? := match figureCount? c with
        | some count => numberFault? place c count rest
        | none => if c = 'N' then nameFault? place rest else none
      match fault? with
      | some fault => some fault
      | none => escapeFault? (place + 2) rest
  | c :: rest => escapeFault? (place + places c) rest

/-- The first faulty escape of bytes. -/
def byteEscapeFault? (place : Nat) : List Char → Option Refusal
  | [] | ['\\'] => none
  | '\\' :: c :: rest =>
    if c = 'x' ∧ ((rest.take 2).takeWhile Numeral.isHexFigure).length < 2 then
      some (.badByteEscape place)
    else byteEscapeFault? (place + 2) rest
  | _ :: rest => byteEscapeFault? (place + 1) rest

def bytesFault? (q : Quotation) : Option Refusal :=
  if q.content.any (128 ≤ ·.toNat) then some .wideBytes
  else if q.raw then none
  else byteEscapeFault? 0 q.content

/-! ### Formatted quotations -/

def isBrace (c : Char) : Bool := c = '\x7b' || c = '\x7d'

/-- Where the text before an expression ends. -/
structure Plain where
  chars : List Char
  rest : List Char
  /-- It ends in a doubled brace, and more text follows. -/
  goesOn : Bool

def Plain.endAt (nested : Bool) (read : List Char) (brace : Char) (rest : List Char) :
    Except Refusal Plain :=
  if nested then .ok ⟨read.reverse, brace :: rest, false⟩
  else if rest.head? = some brace then .ok ⟨(brace :: read).reverse, rest.tail, true⟩
  else if brace = '\x7d' then .error (.badFormat "single '\x7d' is not allowed")
  else .ok ⟨read.reverse, brace :: rest, false⟩

/-- Reads text up to a brace, keeping it last character first. Braces that belong to an escape's
name do not count. -/
def plain (raw nested inName : Bool) (read : List Char) : List Char → Except Refusal Plain
  | [] => .ok ⟨read.reverse, [], false⟩
  | [c] =>
    if isBrace c ∧ !inName then Plain.endAt nested read c []
    else .ok ⟨(c :: read).reverse, [], false⟩
  | c :: d :: rest =>
    if inName then plain raw nested (c ≠ '\x7d') (c :: read) (d :: rest)
    else if c = '\\' ∧ !raw then
      if d = 'N' then
        match rest with
        | [] => .ok ⟨(d :: c :: read).reverse, [], false⟩
        | e :: rest => plain raw nested (e = '\x7b') (e :: d :: c :: read) rest
      else if isBrace d then Plain.endAt nested (c :: read) d rest
      else plain raw nested false (d :: c :: read) rest
    else if isBrace c then Plain.endAt nested read c (d :: rest)
    else plain raw nested false (c :: read) (d :: rest)

/-- A quotation within an expression: its quote, and whether it has three of them. -/
structure Inner where
  quote : Char
  long : Bool

/-- Marks that end an expression unless an equals sign follows or, for the last two, at all. -/
def mayEnd (c : Char) : Bool := ['!', ':', '\x7d', '=', '>', '<'].contains c

/-- Reads an expression up to what ends it, keeping it last character first; `skipped` characters
have been looked at already. -/
def expression (skipped : Nat) (inner? : Option Inner) (brackets : List Char) (read : List Char) :
    List Char → Except Refusal (List Char × List Char)
  | [] =>
    if inner?.isSome then .error (.badFormat "unterminated string")
    else match brackets with
    | [] => .error (.badFormat "expecting '\x7d'")
    | opening :: _ => .error (.badFormat ("unmatched '" ++ opening.toString ++ "'"))
  | c :: rest =>
    let ahead := rest.take 2
    match skipped with
    | skipped + 1 => expression skipped inner? brackets (c :: read) rest
    | 0 =>
      if c = '\\' then .error (.badPart "cannot include a backslash")
      else match inner? with
      | some inner =>
        if c ≠ inner.quote then expression 0 inner? brackets (c :: read) rest
        else if !inner.long then expression 0 none brackets (c :: read) rest
        else if ahead = [c, c] then expression 2 none brackets (c :: read) rest
        else expression 0 inner? brackets (c :: read) rest
      | none =>
        if c = '\'' ∨ c = '"' then
          if ahead = [c, c] then expression 2 (some ⟨c, true⟩) brackets (c :: read) rest
          else expression 0 (some ⟨c, false⟩) brackets (c :: read) rest
        else if Bracket.isOpening c then
          expression 0 none (c :: brackets) (c :: read) rest
        else if c = '#' then .error (.badPart "cannot include '#'")
        else if brackets.isEmpty ∧ mayEnd c then
          if ['!', '=', '<', '>'].contains c ∧ rest.head? = some '=' then
            expression 1 none brackets (c :: read) rest
          else if c = '<' ∨ c = '>' then expression 0 none brackets (c :: read) rest
          else .ok (read.reverse, c :: rest)
        else if Bracket.isClosing c then
          match brackets with
          | [] => .error (.badFormat ("unmatched '" ++ c.toString ++ "'"))
          | opening :: outer =>
            if Bracket.opposite c = opening then expression 0 none outer (c :: read) rest
            else .error (.badFormat ("closing parenthesis '" ++ c.toString ++
              "' does not match opening parenthesis '" ++ opening.toString ++ "'"))
        else expression 0 none brackets (c :: read) rest

end Quotation

end NodeHistory.Literal

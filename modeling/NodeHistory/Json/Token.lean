import NodeHistory.Json.Value

/-!
The tokens of a record's text. A step of the scanner takes one token off the text, and what it
leaves is shorter. A quoted text that is not well formed is a token too, which tells its fault and
how much of the text is left from there on: whether that matters depends on what may come next.
-/

namespace NodeHistory.Json

/-- What is wrong with a text that is no record. -/
inductive SyntaxFault where
  | valueExpected
  | keyExpected
  | colonExpected
  | commaExpected
  | extraData
  | unterminatedText
  | controlCharacter
  | badEscape
  | badNumberEscape
  | byteOrderMark
deriving DecidableEq, Repr

inductive Token where
  | openList
  | closeList
  | openObject
  | closeObject
  | comma
  | colon
  | null
  | bool (b : Bool)
  /-- A whole number by its digits, which may be too many. -/
  | int (negative : Bool) (digits : List Char)
  | real (x : Number.Binary64)
  | text (s : String)
  | badText (fault : SyntaxFault) (left : Nat)
deriving DecidableEq

namespace Token

def isSpace (c : Char) : Bool := c = ' ' || c = '\t' || c = '\n' || c = '\r'

def hexValue? (c : Char) : Option Nat :=
  if c.isDigit then some (c.toNat - '0'.toNat)
  else if 'a' ≤ c ∧ c ≤ 'f' then some (c.toNat - 'a'.toNat + 10)
  else if 'A' ≤ c ∧ c ≤ 'F' then some (c.toNat - 'A'.toNat + 10)
  else none

def hexNumber? (a b c d : Char) : Option Nat := do
  return (((← hexValue? a) * 16 + (← hexValue? b)) * 16 + (← hexValue? c)) * 16 + (← hexValue? d)

def isHighHalf (n : Nat) : Bool := 0xd800 ≤ n && n < 0xdc00

def isLowHalf (n : Nat) : Bool := 0xdc00 ≤ n && n < 0xe000

def joinHalves (high low : Nat) : Nat := 0x10000 + (high - 0xd800) * 0x400 + (low - 0xdc00)

/-- The character that keeps half a pair by itself. Such a half is no character, so each of them has
one of the last `0x800` characters for private use in its place: no two halves are confused. -/
def loneHalf (n : Nat) : Char := Char.ofNat (0x10f800 + (n - 0xd800))

/-- The character of a number. -/
def charOf (n : Nat) : Char :=
  if isHighHalf n ∨ isLowHalf n then loneHalf n else Char.ofNat n

def simpleEscape? : Char → Option Char
  | '"' => some '"'
  | '\\' => some '\\'
  | '/' => some '/'
  | 'b' => some '\x08'
  | 'f' => some '\x0c'
  | 'n' => some '\n'
  | 'r' => some '\r'
  | 't' => some '\t'
  | _ => none

/-- A first half that no second half has followed. -/
def settle (half? : Option Nat) (reversed : List Char) : List Char :=
  match half? with
  | none => reversed
  | some n => charOf n :: reversed

/-- What has been read of a quoted text: all of it, with what follows the closing quote, or a
fault with the length of the text from there on. -/
inductive TextScan where
  | closed (chars rest : List Char)
  | faulty (fault : SyntaxFault) (left : Nat)

/-- Reads up to the closing quote. On the way the characters are kept last first, and the first
half of a pair apart from them. A text that does not end is at fault from its opening quote on. -/
def scanText (opening : Nat) (half? : Option Nat) (reversed : List Char) : List Char → TextScan
  | [] => .faulty .unterminatedText opening
  | '"' :: rest => .closed (settle half? reversed).reverse rest
  | ['\\'] => .faulty .unterminatedText opening
  | '\\' :: 'u' :: a :: b :: c :: d :: next :: rest =>
    match hexNumber? a b c d, half? with
    | none, _ => .faulty .badNumberEscape (rest.length + 6)
    | some n, some high =>
      if isLowHalf n then
        scanText opening none (charOf (joinHalves high n) :: reversed) (next :: rest)
      else if isHighHalf n then
        scanText opening (some n) (charOf high :: reversed) (next :: rest)
      else scanText opening none (charOf n :: charOf high :: reversed) (next :: rest)
    | some n, none =>
      if isHighHalf n then scanText opening (some n) reversed (next :: rest)
      else scanText opening none (charOf n :: reversed) (next :: rest)
  | '\\' :: 'u' :: rest => .faulty .badNumberEscape (rest.length + 1)
  | '\\' :: c :: rest =>
    match simpleEscape? c with
    | none => .faulty .badEscape (rest.length + 2)
    | some e => scanText opening none (e :: settle half? reversed) rest
  | c :: rest =>
    if c.toNat < 32 then .faulty .controlCharacter (rest.length + 1)
    else scanText opening none (c :: settle half? reversed) rest

/-- A quoted text after its opening quote. Nothing is left of one that is at fault. -/
def quotedText (text : List Char) : Token × List Char :=
  match scanText (text.length + 1) none [] text with
  | .closed chars rest => (.text (String.ofList chars), rest)
  | .faulty fault left => (.badText fault left, [])

/-- A row of digits, and what follows it. -/
def spanDigits (text : List Char) : List Char × List Char :=
  (text.takeWhile Char.isDigit, text.dropWhile Char.isDigit)

/-- The digits of a fraction, if a point and a digit follow. -/
def scanFraction (text : List Char) : Option (List Char × List Char) :=
  match text with
  | '.' :: rest =>
    let (digits, rest) := spanDigits rest
    if digits.isEmpty then none else some (digits, rest)
  | _ => none

/-- The value of an exponent, if its mark and a digit follow. -/
def scanExponent (text : List Char) : Option (Int × List Char) :=
  match text with
  | mark :: rest =>
    if mark ≠ 'e' ∧ mark ≠ 'E' then none
    else
      let (negative, rest) := match rest with
        | '-' :: rest => (true, rest)
        | '+' :: rest => (false, rest)
        | _ => (false, rest)
      let (digits, rest) := spanDigits rest
      if digits.isEmpty then none
      else
        let n : Int := (Text.number? digits).getD 0
        some (if negative then -n else n, rest)
  | [] => none

/-- The digits of a whole number; after a zero there are none. -/
def scanWhole (text : List Char) : Option (List Char × List Char) :=
  match text with
  | '0' :: rest => some (['0'], rest)
  | _ =>
    let (digits, rest) := spanDigits text
    if digits.isEmpty then none else some (digits, rest)

def scanNumber (negative : Bool) (text : List Char) : Option (Token × List Char) := do
  let (whole, rest) ← scanWhole text
  let fraction? := scanFraction rest
  let (places, rest) := fraction?.getD ([], rest)
  let exponent? := scanExponent rest
  let (exponent, rest) := exponent?.getD (0, rest)
  if fraction?.isNone ∧ exponent?.isNone then return (.int negative whole, rest)
  let digits := (Text.number? (whole ++ places)).getD 0
  return (.real (.ofDecimal negative digits (exponent - places.length)), rest)

def keywords : List (List Char × Token) :=
  [("null".toList, .null), ("true".toList, .bool true), ("false".toList, .bool false),
   ("NaN".toList, .real .nan), ("Infinity".toList, .real (.infinity false)),
   ("-Infinity".toList, .real (.infinity true))]

def scanKeyword (text : List Char) : Option (Token × List Char) :=
  keywords.findSome? fun (word, token) =>
    if word.isPrefixOf text then some (token, text.drop word.length) else none

/-- The token at the start of a text that does not start with a space. -/
def scan? (text : List Char) : Option (Token × List Char) :=
  match text with
  | [] => none
  | '[' :: rest => some (.openList, rest)
  | ']' :: rest => some (.closeList, rest)
  | '\x7b' :: rest => some (.openObject, rest)
  | '\x7d' :: rest => some (.closeObject, rest)
  | ',' :: rest => some (.comma, rest)
  | ':' :: rest => some (.colon, rest)
  | '"' :: rest => some (quotedText rest)
  | '-' :: rest => (scanKeyword text).or (scanNumber true rest)
  | _ => (scanKeyword text).or (scanNumber false text)

theorem scanText_shorter {opening : Nat} {half? : Option Nat}
    {reversed text chars rest : List Char}
    (scanned : scanText opening half? reversed text = .closed chars rest) :
    rest.length < text.length := by
  fun_induction scanText opening half? reversed text <;> simp_all <;> omega

theorem quotedText_length_le (text : List Char) :
    (quotedText text).2.length ≤ text.length := by
  unfold quotedText
  split
  next chars rest scanned => exact Nat.le_of_lt (scanText_shorter scanned)
  next => simp

theorem spanDigits_length (text : List Char) :
    (spanDigits text).1.length + (spanDigits text).2.length = text.length := by
  rw [spanDigits, ← List.length_append, List.takeWhile_append_dropWhile]

theorem scanWhole_shorter {text digits rest : List Char}
    (scanned : scanWhole text = some (digits, rest)) : rest.length < text.length := by
  unfold scanWhole at scanned
  split at scanned
  · simp_all
  · have whole := spanDigits_length text
    by_cases empty : (spanDigits text).1 = []
    · simp [empty] at scanned
    · have filled := List.length_pos_iff.2 empty
      grind

theorem scanFraction_shorter {text digits rest : List Char}
    (scanned : scanFraction text = some (digits, rest)) : rest.length < text.length := by
  unfold scanFraction at scanned
  split at scanned
  next tail =>
    have whole := spanDigits_length tail
    grind
  next => simp at scanned

theorem scanExponent_shorter {text rest : List Char} {exponent : Int}
    (scanned : scanExponent text = some (exponent, rest)) : rest.length < text.length := by
  unfold scanExponent at scanned
  split at scanned
  next mark tail =>
    split at scanned
    · simp at scanned
    · split at scanned
      all_goals
        have whole := spanDigits_length ‹_›
        grind
  next => simp at scanned

theorem scanNumber_shorter {negative : Bool} {text rest : List Char} {token : Token}
    (scanned : scanNumber negative text = some (token, rest)) : rest.length < text.length := by
  unfold scanNumber at scanned
  cases whole : scanWhole text with
  | none => simp [whole] at scanned
  | some found =>
    obtain ⟨digits, afterWhole⟩ := found
    have first := scanWhole_shorter whole
    cases fraction : scanFraction afterWhole with
    | none =>
      cases exponent : scanExponent afterWhole with
      | none => grind
      | some found =>
        have third := scanExponent_shorter exponent
        grind
    | some found =>
      obtain ⟨places, afterFraction⟩ := found
      have second := scanFraction_shorter fraction
      cases exponent : scanExponent afterFraction with
      | none => grind
      | some found =>
        have third := scanExponent_shorter exponent
        grind

theorem scanKeyword_shorter {text rest : List Char} {token : Token}
    (scanned : scanKeyword text = some (token, rest)) : rest.length < text.length := by
  obtain ⟨entry, member, found⟩ := List.exists_of_findSome?_eq_some scanned
  have filled : 0 < entry.1.length := by
    simp only [keywords, List.mem_cons, List.not_mem_nil, or_false] at member
    rcases member with rfl | rfl | rfl | rfl | rfl | rfl <;> decide
  grind [List.isPrefixOf_iff_prefix, List.IsPrefix.length_le]

theorem scan?_shorter {text rest : List Char} {token : Token}
    (scanned : scan? text = some (token, rest)) : rest.length < text.length := by
  unfold scan? at scanned
  split at scanned
  all_goals try grind
  next tail =>
    have within := quotedText_length_le tail
    grind
  next tail =>
    rcases Option.or_eq_some_iff.1 scanned with found | found
    · exact scanKeyword_shorter found
    · have shorter := scanNumber_shorter found.2
      grind
  next =>
    rcases Option.or_eq_some_iff.1 scanned with found | found
    · exact scanKeyword_shorter found
    · exact scanNumber_shorter found.2

end Token

end NodeHistory.Json

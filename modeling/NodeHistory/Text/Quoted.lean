import NodeHistory.Text.Printable

/-!
Quoted texts. A text is enclosed in single quotes, or in double ones if it holds a single quote
and no double one. The enclosing quote, the backslash and whatever has no printed form are
written as escapes, so that a quoted text is one printable line.
-/

namespace NodeHistory.Text

/-- The last `width` digits of a number to the base sixteen, leading zeros included. -/
def hexDigits : Nat → Nat → List Char
  | 0, _ => []
  | width + 1, n => hexDigits width (n / 16) ++ [Nat.digitChar (n % 16)]

/-- The number of a character in the shortest of the three widths that holds it. -/
def numberEscape (c : Char) : List Char :=
  let n := c.toNat
  if n < 0x100 then '\\' :: 'x' :: hexDigits 2 n
  else if n < 0x10000 then '\\' :: 'u' :: hexDigits 4 n
  else '\\' :: 'U' :: hexDigits 8 n

def enclosingQuote (text : List Char) : Char :=
  if text.contains '\'' && !text.contains '"' then '"' else '\''

def escaped (quote c : Char) : List Char :=
  if c = quote ∨ c = '\\' then ['\\', c]
  else if c = '\n' then ['\\', 'n']
  else if c = '\r' then ['\\', 'r']
  else if c = '\t' then ['\\', 't']
  else if isPrintable c then [c]
  else numberEscape c

def quotedChars (text : List Char) : List Char :=
  let quote := enclosingQuote text
  quote :: text.flatMap (escaped quote) ++ [quote]

def quoted (text : String) : String := String.ofList (quotedChars text.toList)

end NodeHistory.Text

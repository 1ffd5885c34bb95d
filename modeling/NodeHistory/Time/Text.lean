import NodeHistory.Time.Instant
import NodeHistory.Text.Digit

/-!
Written moments: `2024-03-01T10:00:05.250000`, with the fraction left out where it is zero and a
blank for the `T` where a sentence quotes the moment. `ofText?` reads what `iso` writes.
-/

namespace NodeHistory.Time

/-- The last `width` decimal digits of a number, leading zeros included. -/
def fixedDigits : Nat → Nat → List Char
  | 0, _ => []
  | width + 1, n => fixedDigits width (n / 10) ++ [Nat.digitChar (n % 10)]

namespace Civil

def dateText (c : Civil) : List Char :=
  fixedDigits 4 c.year ++ '-' :: fixedDigits 2 c.month ++ '-' :: fixedDigits 2 c.day

def clockText (c : Civil) : List Char :=
  fixedDigits 2 c.hour ++ ':' :: fixedDigits 2 c.minute ++ ':' :: fixedDigits 2 c.second ++
    if c.micro = 0 then [] else '.' :: fixedDigits 6 c.micro

end Civil

namespace Instant

def text (between : Char) (t : Instant) : String :=
  String.ofList (t.civil.dateText ++ between :: t.civil.clockText)

def iso (t : Instant) : String := t.text 'T'

def spaced (t : Instant) : String := t.text ' '

end Instant

/-- An unset moment is quoted as `None`. -/
def spaced : Option Instant → String
  | none => "None"
  | some t => t.spaced

private def clockOfText? (year month day : Nat) (hour minute second fraction : List Char) :
    Option Instant := do
  Instant.ofCivil? {
    year, month, day
    hour := ← Text.number? hour
    minute := ← Text.number? minute
    second := ← Text.number? second
    micro := ← if fraction.isEmpty then some 0 else Text.number? fraction }

def Instant.ofText? (text : String) : Option Instant :=
  match text.toList with
  | y1 :: y2 :: y3 :: y4 :: '-' :: m1 :: m2 :: '-' :: d1 :: d2 :: 'T' ::
      h1 :: h2 :: ':' :: n1 :: n2 :: ':' :: s1 :: s2 :: rest => do
    let year ← Text.number? [y1, y2, y3, y4]
    let month ← Text.number? [m1, m2]
    let day ← Text.number? [d1, d2]
    match rest with
    | [] => clockOfText? year month day [h1, h2] [n1, n2] [s1, s2] []
    | '.' :: fraction => clockOfText? year month day [h1, h2] [n1, n2] [s1, s2] fraction
    | _ => none
  | _ => none

end NodeHistory.Time

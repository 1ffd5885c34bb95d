import NodeHistory.Date.Figure
import NodeHistory.Date.Found

/-!
A reader of date texts, the one that the program runs with. The tokens are taken from left to right:
numbers by their own rules, then names of weekdays and months, halves of the day, names of zones and
offsets. Fillers are passed over and any other token makes the text unreadable. What a text leaves
open it takes from the day on which it is read.
-/

namespace NodeHistory.Date

open Number

/-- What follows a month's name: the other parts of a joined date, or a year after `of`. -/
def readAfterMonth (today : Time.Civil) (days : DayFields) (ahead : List Token) :
    Reading (DayFields × Nat) :=
  match ahead with
  | [] => .ok (days, 0)
  | separator :: rest =>
    if separator = ['-'] ∨ separator = ['/'] then do
      let days ← require (rest.head?.bind (days.addToken ·))
      match rest[1]? with
      | none => return (days, 2)
      | some next =>
        if next = separator then
          return (← require (rest[2]?.bind (days.addToken ·)), 4)
        else return (days, 2)
    else match ahead with
    | [' '] :: word :: [' '] :: year :: _ =>
      if Token.isOf word then
        if Token.isDigits year then do
          let year ← require (Text.boundedNumber? year)
          let digits := (toString (fullYear today year false)).toList
          return (← require (days.addToken digits (some .year)), 4)
        else .ok (days, 4)
      else .ok (days, 0)
    | _ => .ok (days, 0)

def mayBeZone (p : Parts) (token : Token) : Bool :=
  p.hour.isSome && p.zone.isNone && token.isZoneName

/-- The name of a zone. Where a sign follows, the name only tells which way the offset counts. -/
def readZone (p : Parts) (token : Token) (next? : Option Token) : Parts :=
  if next?.any Token.isSign then
    { p with zone := if token.isZeroZone then none else some token, signReversed := true }
  else { p with zone := some token, offset := if token = ['z'] then some 0 else none }

/-- The zone's name that may follow an offset in parentheses. -/
def zoneInParentheses? (p : Parts) (ahead : List Token) : Option Token :=
  match ahead with
  | filler :: ['('] :: name :: [')'] :: _ =>
    if Token.isFiller filler ∧ 3 ≤ name.length ∧ mayBeZone p name then some name else none
  | _ => none

/-- Hours and minutes behind a sign: four figures, two numbers around a colon, or hours alone. -/
def readOffset (p : Parts) (sign : Token) (ahead : List Token) : Reading (Parts × Nat) := do
  let figures ← require ahead.head?
  let (hours, minutes, taken) ←
    if figures.length = 4 then do
      pure (← require (Text.boundedNumber? (figures.take 2)),
        ← require (Text.boundedNumber? (figures.drop 2)), 1)
    else if ahead[1]? = some [':'] then do
      pure (← require (Text.boundedNumber? figures),
        ← require (ahead[2]?.bind Text.boundedNumber?), 3)
    else if figures.length ≤ 2 then do
      pure (← require (Text.boundedNumber? figures), 0, 1)
    else throw .unreadable
  let seconds : Int := hours * 3600 + minutes * 60
  let ahead? := (sign = ['+']) != p.signReversed
  let p := { p with offset := some (if ahead? then seconds else -seconds), signReversed := false }
  match zoneInParentheses? p (ahead.drop taken) with
  | some name => return ({ p with zone := some name }, taken + 4)
  | none => return (p, taken)

/-- Reads one token, with a count of the tokens after it that it takes up. -/
def readToken (today : Time.Civil) (behind ahead : List Token) (token : Token) (p : Parts) :
    Reading (Parts × Nat) :=
  match Decimal.ofText? token with
  | some d => readFigure behind ahead token d p
  | none =>
    if token.isUnbounded then .error .unreadable
    else if let some weekday := token.weekday? then .ok ({ p with weekday := some weekday }, 0)
    else if let some month := token.month? then do
      let days ← require (p.days.addMonth month)
      let (days, taken) ← readAfterMonth today days ahead
      return ({ p with days }, taken)
    else if let some m := token.meridiem? then do
      let hour ← require p.hour
      if 12 < hour then throw .unreadable
      return ({ p with hour := some (m.adjust hour), meridiem := some m }, 0)
    else if mayBeZone p token && p.offset.isNone then .ok (readZone p token ahead.head?, 0)
    else if p.hour.isSome && token.isSign then readOffset p token ahead
    else if token.isFiller then .ok (p, 0)
    else .error .unreadable

/-- Reads all tokens; those passed are kept behind, the nearest first. -/
def readTokens (today : Time.Civil) (behind : List Token) : List Token → Parts → Reading Parts
  | [], p => .ok p
  | token :: ahead, p =>
    match readToken today behind ahead token p with
    | .error halt => .error halt
    | .ok (p, taken) =>
      readTokens today ((ahead.take taken).reverse ++ token :: behind) (ahead.drop taken) p
termination_by ahead => ahead.length
decreasing_by simp only [List.length_drop, List.length_cons]; omega

/-- The longest offset that can be told apart from a day count out of hand, in seconds. -/
def longestOffset : Nat := 1000000000 * 86400

def Zone.found (shown : Time.Instant) : Zone → Found
  | .unknown => .plain shown
  | .zero => .zoned shown 0
  | .ahead seconds =>
    if seconds < -longestOffset + 86400 ∨ longestOffset ≤ seconds then .refused
    else .zoned shown seconds

/-- What a text is found to be on a given day. -/
def read (today : Time.Civil) (text : List Char) : Found :=
  match readTokens today [] (Token.ofText text) {} with
  | .error .unreadable => .refused
  | .error .tooPrecise => .failed "[<class 'decimal.DivisionImpossible'>]"
  | .ok p =>
    match p.days.resolve? with
    | none => .refused
    | some day =>
      if p.isEmpty day then .refused
      else match p.localTime? today day with
      | none => .refused
      | some shown => p.zoneInEffect.found shown

/-- Reads texts at the given moment. -/
def reader (now : Time.Instant) : Reader := fun text => read now.civil text.toList

end NodeHistory.Date

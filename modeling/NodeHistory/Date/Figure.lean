import NodeHistory.Date.Parts

/-!
The meaning of a number in a date text. It depends on the form of the number, on the tokens
around it and on what has been read before; the first rule that applies decides. Every rule
yields the parts read and the number of further tokens that it takes up.
-/

namespace NodeHistory.Date

open Number

abbrev Reading := Except Halt

/-- An absent value makes the text unreadable. -/
def require {α : Type} : Option α → Reading α
  | some a => .ok a
  | none => .error .unreadable

def fraction (d : Decimal) : Reading Decimal :=
  match d.fraction? with
  | none => .error .tooPrecise
  | some f => .ok f

/-- Minutes, and the seconds in their fraction if there is one. -/
def minuteAndSecond (d : Decimal) : Reading (Nat × Option Nat) := do
  let f ← fraction d
  return (d.whole, if f.isZero then none else some f.sixtieths)

/-- Seconds with a fraction of which six places count. -/
def secondAndMicro (token : Token) : Reading (Nat × Nat) := do
  let whole := token.takeWhile (· ≠ '.')
  match token.dropWhile (· ≠ '.') with
  | [] => return (← require (Text.boundedNumber? token), 0)
  | _ :: places =>
    if places.contains '.' then throw .unreadable
    let micro := (places ++ List.replicate (6 - places.length) '0').take 6
    return (← require (Text.boundedNumber? whole), ← require (Text.boundedNumber? micro))

def Meridiem.adjust (m : Meridiem) (hour : Nat) : Nat :=
  match m with
  | .pm => if hour < 12 then hour + 12 else hour
  | .am => if hour = 12 then 0 else hour

/-- The value of a number that is written beside a unit. -/
def withUnit (p : Parts) (token : Token) (d : Decimal) : ClockUnit → Reading Parts
  | .hour => do
    let f ← fraction d
    let p := { p with hour := some d.whole }
    return if f.isZero then p else { p with minute := some f.sixtieths }
  | .minute => do
    let (minute, second) ← minuteAndSecond d
    return { p with minute := some minute, second }
  | .second => do
    let (second, micro) ← secondAndMicro token
    return { p with second := some second, micro := some micro }

def ClockUnit.below : ClockUnit → Option ClockUnit
  | .hour => some .minute
  | .minute => some .second
  | .second => none

/-- How a number gets a unit: from the token after it or after one blank, which is then taken up,
or as the unit below that of the token before it. -/
inductive UnitFound where
  | following (unit : ClockUnit) (taken : Nat)
  | preceding (unit : ClockUnit)

def findUnit? (behind ahead : List Token) : Option UnitFound :=
  let after := ahead.head?.bind Token.unit?
  let afterBlank := match ahead with
    | [' '] :: token :: _ => Token.unit? token
    | _ => none
  let before := behind.head?.bind Token.unit?
  let beforeBlank := match behind, ahead with
    | [' '] :: token :: _, [] => Token.unit? token
    | _, _ => none
  (after.map (.following · 1)).or <| (afterBlank.map (.following · 2)).or <|
    (before.map .preceding).or (beforeBlank.map .preceding)

/-- Hour and minute, or an hour alone, after a complete calendar date. -/
def isClockAfterDate (p : Parts) (token : Token) (next? : Option Token) : Bool :=
  p.days.values.length = 3 && (token.length = 2 || token.length = 4) && p.hour.isNone &&
    next?.all fun (next : Token) => next ≠ [':'] && next.unit?.isNone

def readClockAfterDate (p : Parts) (token : Token) : Reading Parts := do
  let p := { p with hour := some (← require (Text.boundedNumber? (token.take 2))) }
  if token.length = 4 then
    return { p with minute := some (← require (Text.boundedNumber? (token.drop 2))) }
  else return p

def isSixFigures (token : Token) : Bool :=
  token.length = 6 || (6 < token.length && (token.takeWhile (· ≠ '.')).length = 6)

/-- Year, month and day of two figures each where no date has been met, else hour, minute and
second. -/
def readSixFigures (p : Parts) (token : Token) : Reading Parts := do
  if p.days.values.isEmpty && !token.contains '.' then
    let days ← require (p.days.addToken (token.take 2))
    let days ← require (days.addToken ((token.drop 2).take 2))
    let days ← require (days.addToken (token.drop 4))
    return { p with days }
  else
    let hour ← require (Text.boundedNumber? (token.take 2))
    let minute ← require (Text.boundedNumber? ((token.drop 2).take 2))
    let (second, micro) ← secondAndMicro (token.drop 4)
    return { p with
      hour := some hour, minute := some minute, second := some second, micro := some micro }

/-- A year of four figures with month and day, and as many of hour, minute and second as follow. -/
def readLongFigures (p : Parts) (token : Token) : Reading Parts := do
  let days ← require (p.days.addToken (token.take 4) (some .year))
  let days ← require (days.addToken ((token.drop 4).take 2))
  let days ← require (days.addToken ((token.drop 6).take 2))
  let p := { p with days }
  if token.length = 8 then return p
  let hour ← require (Text.boundedNumber? ((token.drop 8).take 2))
  let minute ← require (Text.boundedNumber? ((token.drop 10).take 2))
  let p := { p with hour := some hour, minute := some minute }
  if token.length = 12 then return p
  return { p with second := some (← require (Text.boundedNumber? (token.drop 12))) }

/-- The clock that continues after the colon behind an hour. -/
def readClock (p : Parts) (hour : Nat) (minuteToken : Token) (ahead : List Token) :
    Reading (Parts × Nat) := do
  let minutes ← require (Decimal.ofText? minuteToken)
  let (minute, second) ← minuteAndSecond minutes
  let p := { p with hour := some hour, minute := some minute, second }
  match ahead with
  | [':'] :: secondToken :: _ =>
    let (second, micro) ← secondAndMicro secondToken
    return ({ p with second := some second, micro := some micro }, 4)
  | _ => return (p, 2)

/-- A day's number or a month's name, or another number. -/
def addDayOrMonth (days : DayFields) (token : Token) : Option DayFields :=
  match token.month? with
  | some month => days.addMonth month
  | none => days.addToken token

/-- A calendar date whose parts are joined by a separator. -/
def readJoinedDate (p : Parts) (token separator : Token) (ahead : List Token) :
    Reading (Parts × Nat) := do
  let days ← require (p.days.addToken token)
  match ahead with
  | [] => return ({ p with days }, 1)
  | second :: rest =>
    if second.isFiller then return ({ p with days }, 1)
    let days ← require (if second.isDigits then days.addToken second
      else second.month?.bind days.addMonth)
    match rest with
    | next :: later =>
      if next = separator then
        let third ← require later.head?
        return ({ p with days := ← require (addDayOrMonth days third) }, 4)
      else return ({ p with days }, 2)
    | [] => return ({ p with days }, 2)

def isDateSeparator (token : Token) : Bool := token = ['-'] || token = ['/'] || token = ['.']

/-- The parts after a number has been read, with the count of further tokens taken up. -/
def readFigure (behind ahead : List Token) (token : Token) (d : Decimal) (p : Parts) :
    Reading (Parts × Nat) :=
  let alone (step : Reading Parts) : Reading (Parts × Nat) := step.map (·, 0)
  let next? := ahead.head?
  let halfDay (m : Meridiem) : Parts := { p with hour := some (m.adjust d.whole) }
  if isClockAfterDate p token next? then alone (readClockAfterDate p token)
  else if isSixFigures token then alone (readSixFigures p token)
  else if [8, 12, 14].contains token.length then alone (readLongFigures p token)
  else match findUnit? behind ahead with
  | some (.following unit taken) => (withUnit p token d unit).map (·, taken)
  | some (.preceding unit) =>
    match unit.below with
    | none => .ok (p, 0)
    | some unit => alone (withUnit p token d unit)
  | none =>
    match ahead with
    | [':'] :: minuteToken :: later => readClock p d.whole minuteToken later
    | _ =>
      match next? with
      | none => do return ({ p with days := ← require (p.days.addDecimal d) }, 1)
      | some next =>
        if isDateSeparator next then readJoinedDate p token next (ahead.drop 1)
        else if next.isFiller then
          match (ahead[1]?).bind Token.meridiem? with
          | some m => .ok (halfDay m, 2)
          | none => do return ({ p with days := ← require (p.days.addDecimal d) }, 1)
        else match next.meridiem? with
        | some m => if d.below 24 then .ok (halfDay m, 1) else asDay
        | none => asDay
where
  asDay : Reading (Parts × Nat) :=
    if p.days.couldBeDay d then do
      return ({ p with days := ← require (p.days.addDecimal d) }, 0)
    else .error .unreadable

end NodeHistory.Date

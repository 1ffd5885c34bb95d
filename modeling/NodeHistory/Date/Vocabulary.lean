import NodeHistory.Date.Token

/-!
The words of dates, in either case: names of weekdays and months, units and halves of the day,
names of the zone at the zero meridian, and the words and signs that may stand between the parts
of a date without saying anything.
-/

namespace NodeHistory.Date

inductive ClockUnit where
  | hour
  | minute
  | second
deriving DecidableEq, Repr

inductive Meridiem where
  | am
  | pm
deriving DecidableEq, Repr

namespace Token

def weekdays : List (List String) :=
  [["mon", "monday"], ["tue", "tuesday"], ["wed", "wednesday"], ["thu", "thursday"],
   ["fri", "friday"], ["sat", "saturday"], ["sun", "sunday"]]

def months : List (List String) :=
  [["jan", "january"], ["feb", "february"], ["mar", "march"], ["apr", "april"], ["may"],
   ["jun", "june"], ["jul", "july"], ["aug", "august"], ["sep", "sept", "september"],
   ["oct", "october"], ["nov", "november"], ["dec", "december"]]

def fillers : List String :=
  [" ", ".", ",", ";", "-", "/", "'", "at", "on", "and", "ad", "m", "t", "of", "st", "nd", "rd",
   "th"]

def zeroZones : List String := ["utc", "gmt", "z"]

def lowered (token : Token) : String := String.ofList (token.map Char.toLower)

/-- 0 for Monday. -/
def weekday? (token : Token) : Option Nat := weekdays.findIdx? (·.contains token.lowered)

/-- 1 for January. -/
def month? (token : Token) : Option Nat :=
  (months.findIdx? (·.contains token.lowered)).map (· + 1)

def unit? (token : Token) : Option ClockUnit :=
  let word := token.lowered
  if ["h", "hour", "hours"].contains word then some .hour
  else if ["m", "minute", "minutes"].contains word then some .minute
  else if ["s", "second", "seconds"].contains word then some .second
  else none

def meridiem? (token : Token) : Option Meridiem :=
  let word := token.lowered
  if ["am", "a"].contains word then some .am
  else if ["pm", "p"].contains word then some .pm
  else none

def isFiller (token : Token) : Bool := fillers.contains token.lowered

def isZeroZone (token : Token) : Bool := zeroZones.contains token.lowered

def isOf (token : Token) : Bool := token.lowered = "of"

/-- Words that spell a number without a finite value. -/
def isUnbounded (token : Token) : Bool :=
  ["inf", "infinity", "nan"].contains token.lowered

def isDigits (token : Token) : Bool := !token.isEmpty && token.all Text.isDigit

def isSign (token : Token) : Bool := token = ['+'] || token = ['-']

/-- At most five capital letters, or a small `z`. -/
def isZoneName (token : Token) : Bool :=
  token.length ≤ 5 && (token.all Char.isUpper || token = ['z'])

end Token

end NodeHistory.Date

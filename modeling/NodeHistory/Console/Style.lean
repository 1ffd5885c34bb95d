import NodeHistory.Text.Blank
import NodeHistory.Text.Digit
import NodeHistory.Text.Lines
import NodeHistory.Text.SmallLetters

/-!
Names of text styles. A name is a row of words: attributes, each with short forms, or their
negations, a colour, a background after `on` and a target after `link`. Names that say the same
have one normal form; a name that is no such row is its own normal form in small letters. The
parts of a mixed colour must be numbers, and that one is missing or too long is a fault of its own.
-/

namespace NodeHistory.Console

/-- Attributes in the order of the normal form, each with the words for it. -/
def attributes : List (String × List String) :=
  [("bold", ["b"]), ("dim", ["d"]), ("italic", ["i"]), ("underline", ["u"]), ("blink", []),
   ("blink2", []), ("reverse", ["r"]), ("conceal", ["c"]), ("strike", ["s"]),
   ("underline2", ["uu"]), ("frame", []), ("encircle", []), ("overline", ["o"])]

def attribute? (word : String) : Option String :=
  (attributes.find? fun entry => entry.1 = word || entry.2.contains word).map (·.1)

def basicColours : List String :=
  ["black", "red", "green", "yellow", "blue", "magenta", "cyan", "white"]

/-- Colours of the large palette. -/
def paletteColours : List (List Char) := Text.words "
  grey0 gray0 navy_blue dark_blue blue3 blue1 dark_green deep_sky_blue4 dodger_blue3 dodger_blue2
  green4 spring_green4 turquoise4 deep_sky_blue3 dodger_blue1 green3 spring_green3 dark_cyan
  light_sea_green deep_sky_blue2 deep_sky_blue1 spring_green2 cyan3 dark_turquoise turquoise2
  green1 spring_green1 medium_spring_green cyan2 cyan1 dark_red deep_pink4 purple4 purple3
  blue_violet orange4 grey37 gray37 medium_purple4 slate_blue3 royal_blue1 chartreuse4
  dark_sea_green4 pale_turquoise4 steel_blue steel_blue3 cornflower_blue chartreuse3 cadet_blue
  sky_blue3 steel_blue1 pale_green3 sea_green3 aquamarine3 medium_turquoise chartreuse2
  sea_green2 sea_green1 aquamarine1 dark_slate_gray2 dark_magenta dark_violet purple light_pink4
  plum4 medium_purple3 slate_blue1 yellow4 wheat4 grey53 gray53 light_slate_grey light_slate_gray
  medium_purple light_slate_blue dark_olive_green3 dark_sea_green light_sky_blue3 sky_blue2
  dark_sea_green3 dark_slate_gray3 sky_blue1 chartreuse1 light_green pale_green1 dark_slate_gray1
  red3 medium_violet_red magenta3 dark_orange3 indian_red hot_pink3 medium_orchid3 medium_orchid
  medium_purple2 dark_goldenrod light_salmon3 rosy_brown grey63 gray63 medium_purple1 gold3
  dark_khaki navajo_white3 grey69 gray69 light_steel_blue3 light_steel_blue yellow3
  dark_sea_green2 light_cyan3 light_sky_blue1 green_yellow dark_olive_green2 dark_sea_green1
  pale_turquoise1 deep_pink3 magenta2 hot_pink2 orchid medium_orchid1 orange3 light_pink3 pink3
  plum3 violet light_goldenrod3 tan misty_rose3 thistle3 plum2 khaki3 light_goldenrod2
  light_yellow3 grey84 gray84 light_steel_blue1 yellow2 dark_olive_green1 honeydew2 light_cyan1
  red1 deep_pink2 deep_pink1 magenta1 orange_red1 indian_red1 hot_pink dark_orange salmon1
  light_coral pale_violet_red1 orchid2 orchid1 orange1 sandy_brown light_salmon1 light_pink1
  pink1 plum1 gold1 navajo_white1 misty_rose1 thistle1 yellow1 light_goldenrod1 khaki1 wheat1
  cornsilk1 grey100 gray100 grey3 gray3 grey7 gray7 grey11 gray11 grey15 gray15 grey19 gray19
  grey23 gray23 grey27 gray27 grey30 gray30 grey35 gray35 grey39 gray39 grey42 gray42 grey46
  gray46 grey50 gray50 grey54 gray54 grey58 gray58 grey62 gray62 grey66 gray66 grey70 gray70
  grey74 gray74 grey78 gray78 grey82 gray82 grey85 gray85 grey89 gray89 grey93 gray93".toList

/-- `#` with six figures to the base sixteen. -/
def isHexColour (text : List Char) : Bool :=
  match text with
  | '#' :: digits => digits.length = 6 && digits.all fun c => c.isDigit || ('a' ≤ c && c ≤ 'f')
  | _ => false

/-- What stands in parentheses after a word, with nothing behind them. -/
def argument? (word : String) (text : List Char) : Option (List Char) :=
  if (word.toList ++ ['(']).isPrefixOf text ∧ text.getLast? = some ')' then
    some ((text.drop (word.length + 1)).dropLast)
  else none

/-- Why words do not name a style. -/
inductive StyleFault where
  | unknown
  | badPart (fault : Text.NumberFault)
deriving DecidableEq, Repr

def greatestPart : Nat := 255

/-- `color(n)` with a number of up to three figures. -/
def isNumberedColour (text : List Char) : Bool :=
  (argument? "color" text).any fun digits =>
    digits.length ≤ 3 && digits.all Char.isDigit &&
      (Text.number? digits).any (· ≤ greatestPart)

def isKnownColour (word : String) : Bool :=
  let text := word.toList
  word = "default" || basicColours.contains word ||
    basicColours.any (fun name => word = "bright_" ++ name) || paletteColours.contains text ||
    isHexColour text || isNumberedColour text

/-- The parts of `rgb(r,g,b)`, which may still be faulty. -/
def mixedParts? (text : List Char) : Option (List (List Char)) := do
  let content ← argument? "rgb" text
  let parts := Text.split ',' content
  if parts.length = 3 ∧ content.all fun c => c = ',' || Text.isDecimal c then some parts else none

/-- Tells whether a word in small letters is a colour. -/
def checkColour (word : String) : Except StyleFault Unit :=
  if isKnownColour word then .ok ()
  else match mixedParts? word.toList with
  | none => .error .unknown
  | some parts => do
    let numbers ← (parts.mapM Text.numberOf).mapError .badPart
    if numbers.all (· ≤ greatestPart) then .ok () else .error .unknown

/-- What the words of a name have said so far. -/
structure Style where
  settings : List (String × Bool) := []
  colour : String := ""
  background : String := ""
  target : String := ""

def Style.set (s : Style) (feature : String) (on : Bool) : Style :=
  { s with settings := (feature, on) :: s.settings.filter (·.1 ≠ feature) }

/-- Adds an attribute or a colour. -/
def Style.extend (s : Style) (word : String) : Except StyleFault Style :=
  match attribute? word with
  | some a => .ok (s.set a true)
  | none => (checkColour word).map fun _ => { s with colour := word }

/-- Adds the words of a name. Capitals are as good as small letters, except in a target and in a
negated attribute. -/
def Style.addWords (s : Style) : List String → Except StyleFault Style
  | [] => .ok s
  | [word] => s.extend (Text.lowered word)
  | word :: next :: rest =>
    match Text.lowered word with
    | "on" => do
      checkColour (Text.lowered next)
      addWords { s with background := Text.lowered next } rest
    | "not" =>
      match attribute? next with
      | none => .error .unknown
      | some a => addWords (s.set a false) rest
    | "link" => addWords { s with target := next } rest
    | word => do addWords (← s.extend word) (next :: rest)

def Style.name (s : Style) : String :=
  let settings := attributes.filterMap fun (name, _) =>
    (s.settings.lookup name).map fun on => if on then name else "not " ++ name
  let words := settings ++ [s.colour].filter (· ≠ "") ++
    (if s.background = "" then [] else ["on", s.background]) ++
    (if s.target = "" then [] else ["link", s.target])
  if words.isEmpty then "none" else String.intercalate " " words

/-- The style of a name. -/
def Style.ofName (name : List Char) : Except StyleFault Style :=
  match (Text.words name).map String.ofList with
  | ["none"] => .ok {}
  | words => Style.addWords {} words

/-- The normal form of a style's name. -/
def normalStyle (name : List Char) : Except Text.NumberFault String :=
  match Style.ofName name with
  | .ok s => .ok s.name
  | .error .unknown => .ok (Text.lowered (String.ofList (Text.trim name)))
  | .error (.badPart fault) => .error fault

end NodeHistory.Console

import NodeHistory.Console.Handler
import NodeHistory.Console.Pictogram
import NodeHistory.Console.StyledText

/-!
Marked-up text. A tag stands in square brackets and starts with a small letter, `#`, `@` or a
slash; other brackets are text. Two backslashes before a tag are one backslash, and one more
makes the tag text. A closing tag must name a style that is open, or close the style opened last;
the tags themselves are not shown, nor are the control characters that would move the cursor.
Between tags the names of pictograms are replaced.
-/

namespace NodeHistory.Console

/-- A tag's name, and what follows the equals sign if there is one. -/
structure Tag where
  name : List Char
  parameters? : Option (List Char) := none
deriving DecidableEq

def Tag.ofText (content : List Char) : Tag :=
  match content.dropWhile (· ≠ '=') with
  | [] => ⟨content, none⟩
  | _ :: parameters => ⟨content.takeWhile (· ≠ '='), some parameters⟩

def Tag.text (tag : Tag) : String :=
  match tag.parameters? with
  | none => "[" ++ String.ofList tag.name ++ "]"
  | some parameters =>
    "[" ++ String.ofList tag.name ++ "=" ++ String.ofList parameters ++ "]"

inductive MarkupError where
  | unmatched (tag : Tag) (position : Nat)
  | nothingToClose (position : Nat)
  /-- A style's name mixes a colour of parts that are no numbers. -/
  | badPart (fault : Text.NumberFault)
  | handler (fault : HandlerFault)
deriving DecidableEq

def MarkupError.text : MarkupError → String
  | .unmatched tag position =>
    "closing tag '" ++ tag.text ++ "' at position " ++ toString position ++
      " doesn't match any open tag"
  | .nothingToClose position =>
    "closing tag '[/]' at position " ++ toString position ++ " has nothing to close"
  | .badPart fault => fault.text
  | .handler fault => fault.text

namespace Markup

inductive Piece where
  | text (chars : List Char)
  | tag (tag : Tag) (position : Nat)

/-- A bracket that may open a tag: the backslashes before it, its place in the text, and what has
been read after it, last character first. -/
structure Candidate where
  slashes : Nat
  position : Nat
  content : List Char

/-- Reading between tags: the text since the last tag, last character first, and the backslashes
just read, which may belong to a tag. -/
structure Scan where
  position : Nat := 0
  pending : List Char := []
  slashes : Nat := 0
  candidate? : Option Candidate := none

def startsTag (c : Char) : Bool := ('a' ≤ c && c ≤ 'z') || c = '#' || c = '/' || c = '@'

def backslashes (n : Nat) : List Char := List.replicate n '\\'

/-- The text that a bracket and what follows it are if no tag comes of it. -/
def Candidate.asText (candidate : Candidate) : List Char :=
  candidate.content ++ '[' :: backslashes candidate.slashes

def Scan.plain (s : Scan) (c : Char) : Scan :=
  match c with
  | '\\' => { s with slashes := s.slashes + 1 }
  | '[' => { s with slashes := 0, candidate? := some ⟨s.slashes, s.position, []⟩ }
  | c => { s with slashes := 0, pending := c :: backslashes s.slashes ++ s.pending }

/-- The backslashes that end a failed tag may belong to the next one. -/
def Scan.giveUp (s : Scan) (candidate : Candidate) : Scan :=
  let trailing := candidate.content.takeWhile (· = '\\')
  let kept := { candidate with content := candidate.content.dropWhile (· = '\\') }
  { s with
    pending := kept.asText ++ s.pending
    slashes := trailing.length
    candidate? := none }

def textPiece (chars : List Char) : List Piece := if chars.isEmpty then [] else [.text chars]

/-- The pieces that a closed bracket completes. -/
def Scan.complete (s : Scan) (candidate : Candidate) : List Piece :=
  let content := candidate.content.reverse
  textPiece s.pending.reverse ++ textPiece (backslashes (candidate.slashes / 2)) ++
    if candidate.slashes % 2 = 1 then [.text ('[' :: content ++ [']'])]
    else [.tag (Tag.ofText content) candidate.position]

def Scan.step (s : Scan) (c : Char) : List Piece × Scan :=
  let next (s : Scan) : Scan := { s with position := s.position + 1 }
  match s.candidate? with
  | none => ([], next (s.plain c))
  | some candidate =>
    if candidate.content.isEmpty ∧ !startsTag c then
      ([], next ((s.giveUp candidate).plain c))
    else if c = '[' then ([], next ((s.giveUp candidate).plain c))
    else if c = ']' then (s.complete candidate, { position := s.position + 1 })
    else
      ([], next { s with candidate? := some { candidate with content := c :: candidate.content } })

def Scan.finish (s : Scan) : List Piece :=
  let s := match s.candidate? with
    | none => s
    | some candidate => s.giveUp candidate
  textPiece (backslashes s.slashes ++ s.pending).reverse

def pieces (s : Scan) : List Char → List Piece
  | [] => s.finish
  | c :: rest =>
    let (emitted, s) := s.step c
    emitted ++ pieces s rest

/-- A backslash before a bracket is not shown. -/
def unescaped : List Char → List Char
  | '\\' :: '[' :: rest => '[' :: unescaped rest
  | c :: rest => c :: unescaped rest
  | [] => []

/-- Bell, backspace, vertical tab, form feed and carriage return. -/
def movesCursor (c : Char) : Bool := [7, 8, 11, 12, 13].contains c.toNat

/-- What a piece shows. -/
def Piece.shown : Piece → List Char
  | .text chars => (withPictograms (unescaped chars)).filter (!movesCursor ·)
  | .tag _ _ => []

/-- A style that has been opened, in its normal form, and the place where it begins. -/
structure OpenStyle where
  name : String
  parameters? : Option (List Char)
  start : Nat

/-- The stretch of a style that ends at a place. What follows the equals sign adds to the name. -/
def OpenStyle.span (s : OpenStyle) (place : Nat) : Span where
  start := s.start
  stop := place
  style := match s.parameters? with
    | none => s.name
    | some parameters => s.name ++ " " ++ String.ofList parameters

/-- A handler's name starts with `@`. -/
def OpenStyle.isHandler (s : OpenStyle) : Bool := s.name.startsWith "@"

/-- Nothing behind the equals sign is as good as no equals sign. -/
def OpenStyle.checkParameters (s : OpenStyle) : Except MarkupError Unit :=
  match s.parameters? with
  | none | some [] => .ok ()
  | some parameters => (Handler.check parameters).mapError .handler

/-- Takes the innermost style of a name out of the open ones. -/
def close? (name : String) : List OpenStyle → Option (OpenStyle × List OpenStyle)
  | [] => none
  | top :: rest =>
    if top.name = name then some (top, rest)
    else (close? name rest).map fun (closed, rest) => (closed, top :: rest)

/-- The style that a closing tag ends, and those that stay open. -/
def closed (opened : List OpenStyle) (tag : Tag) (name : List Char) (position : Nat) :
    Except MarkupError (OpenStyle × List OpenStyle) :=
  if name.isEmpty then
    match opened with
    | [] => .error (.nothingToClose position)
    | top :: rest => .ok (top, rest)
  else do
    match close? (← (normalStyle name).mapError .badPart) opened with
    | none => .error (.unmatched tag position)
    | some found => .ok found

/-- Goes through pieces with the place that the text has reached, the open styles, innermost
first, and the finished stretches, latest first. At the end all styles are closed. A handler that
has been closed leaves no stretch of a named style. -/
def finishedSpans (place : Nat) (opened : List OpenStyle) (spans : List Span) :
    List Piece → Except MarkupError (List Span)
  | [] => .ok (opened.foldl (fun spans style => style.span place :: spans) spans)
  | .tag tag position :: rest =>
    match tag.name with
    | '/' :: name => do
      let (style, opened) ← closed opened tag (Text.trim name) position
      if style.isHandler then
        style.checkParameters
        finishedSpans place opened spans rest
      else finishedSpans place opened (style.span place :: spans) rest
    | name => do
      let name ← (normalStyle name).mapError .badPart
      finishedSpans place (⟨name, tag.parameters?, place⟩ :: opened) spans rest
  | piece :: rest => finishedSpans (place + piece.shown.length) opened spans rest

/-- A marked-up text as it is shown. Of stretches that begin together the later one to be finished
comes first. -/
def render (text : List Char) : Except MarkupError StyledText :=
  if text.contains '[' then do
    let pieces := pieces {} text
    let spans ← finishedSpans 0 [] [] pieces
    return ⟨pieces.flatMap Piece.shown, spans.mergeSort fun a b => a.start ≤ b.start⟩
  else return ⟨(withPictograms text).filter (!movesCursor ·), []⟩

end Markup

end NodeHistory.Console

import NodeHistory.Text.Pictogram
import NodeHistory.Text.SmallLetters

/-!
Names of pictograms in a text. A name stands between two colons and holds neither a colon nor a
blank; it may end in a wish for the coloured or the plain form of the pictogram. What stands
between colons and is no name stays as it is, and its second colon opens no further name.
-/

namespace NodeHistory.Console

/-- The ends of a name that wish for a form, with the character that selects it. -/
def pictogramForms : List (List Char × Char) :=
  [("-emoji".toList, '\ufe0f'), ("-text".toList, '\ufe0e')]

/-- A name without the wish for a form, and the character for that form. -/
def splitForm (name : List Char) : List Char × List Char :=
  match pictogramForms.find? fun form => form.1.isSuffixOf name with
  | some (ending, selector) => (name.take (name.length - ending.length), [selector])
  | none => (name, [])

/-- What is shown for a name and the colons around it. -/
def pictogramOr (name : List Char) : List Char :=
  let (base, selector) := splitForm name
  match Text.pictogram? (Text.inSmallLetters base) with
  | some picture => picture ++ selector
  | none => ':' :: (name ++ [':'])

/-- Replaces the names between colons by their pictograms. -/
def withPictograms (text : List Char) : List Char :=
  go none text
where
  /-- The name begun by a colon is kept last character first. -/
  go : (name? : Option (List Char)) → List Char → List Char
    | none, [] => []
    | some name, [] => ':' :: name.reverse
    | none, c :: rest => if c = ':' then go (some []) rest else c :: go none rest
    | some name, c :: rest =>
      if c = ':' then pictogramOr name.reverse ++ go none rest
      else if Text.isBlank c then ':' :: (name.reverse ++ c :: go none rest)
      else go (some (c :: name)) rest

end NodeHistory.Console

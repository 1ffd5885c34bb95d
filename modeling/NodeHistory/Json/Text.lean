import NodeHistory.Json.Value
import NodeHistory.Number.Shortest
import NodeHistory.Text.Quoted

/-!
Values as texts. A text stands for itself; every other value is written out, and the texts inside
a list or an object are quoted.
-/

namespace NodeHistory.Json

mutual

def written : Json → String
  | .null => "None"
  | .bool true => "True"
  | .bool false => "False"
  | .int n => toString n
  | .real x => x.text
  | .text s => Text.quoted s
  | .list items => "[" ++ String.intercalate ", " (writtenItems items) ++ "]"
  | .object members => "\x7b" ++ String.intercalate ", " (writtenMembers members) ++ "\x7d"

def writtenItems : List Json → List String
  | [] => []
  | item :: items => item.written :: writtenItems items

def writtenMembers : List (String × Json) → List String
  | [] => []
  | (key, value) :: members =>
    (Text.quoted key ++ ": " ++ value.written) :: writtenMembers members

end

/-- The text of a field: nothing for null. -/
def asText : Json → String
  | .null => ""
  | .text s => s
  | value => value.written

/-- The texts of a list's items without the nulls among them; a text by itself is a list of one. -/
def asTexts : Json → List String
  | .text s => [s]
  | .list items => items.filterMap fun item =>
    match item with
    | .null => none
    | item => some item.asText
  | _ => []

end NodeHistory.Json

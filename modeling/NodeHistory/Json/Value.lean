import NodeHistory.Number.Binary64

/-!
Decoded records. Whole numbers are unbounded and kept apart from numbers with a point or an
exponent. The members of an object stay in the order in which their keys first occur.
-/

namespace NodeHistory

inductive Json where
  | null
  | bool (b : Bool)
  | int (n : Int)
  | real (x : Number.Binary64)
  | text (s : String)
  | list (items : List Json)
  | object (members : List (String × Json))

namespace Json

abbrev Members := List (String × Json)

/-- Sets a key's value, in the place of the key if it is there. -/
def Members.set (key : String) (value : Json) : Members → Members
  | [] => [(key, value)]
  | member :: members =>
    if member.1 = key then (key, value) :: members else member :: Members.set key value members

/-- The value under a key; a key that is absent has none, as if it were null. -/
def Members.get (members : Members) (key : String) : Json := (members.lookup key).getD .null

end Json

end NodeHistory

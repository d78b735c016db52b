import PipeQuery.Number.Numeral

/-!
# Data texts as trees

A data text is a tree of lists and objects over scalars.  Objects keep their members in the order
in which they are written, repeated keys included, and numbers stay numerals, so that nothing is
decided here that a reader of the tree may decide otherwise.
-/

namespace PipeQuery

/-- A data tree.  A string is absent where its escapes leave half of a surrogate pair, which no
string can hold. -/
inductive Json where
  | null
  | bool (value : Bool)
  | number (value : Numeral)
  | string (value : Option String)
  | array (items : List Json)
  | object (members : List (Option String × Json))

namespace Json

/-- The tree of a string. -/
def ofString (value : String) : Json :=
  .string (some value)

/-- The object with the given members. -/
def ofMembers (members : List (String × Json)) : Json :=
  .object (members.map fun (key, value) => (some key, value))

/-- The tree of an integer. -/
def ofInt (value : Int) : Json :=
  .number (.ofInt value)

mutual

/-- Number of lists and objects on the longest way down. -/
def depth : Json → Nat
  | array items => itemsDepth items + 1
  | object members => membersDepth members + 1
  | _ => 0

/-- The greatest depth among items. -/
def itemsDepth : List Json → Nat
  | [] => 0
  | item :: items => max item.depth (itemsDepth items)

/-- The greatest depth among members. -/
def membersDepth : List (Option String × Json) → Nat
  | [] => 0
  | (_, value) :: members => max value.depth (membersDepth members)

end

mutual

/-- All strings of a tree, keys included, are present and all numbers are finite. -/
def isComplete : Json → Bool
  | number value => value.toBinary64?.isSome
  | string value => value.isSome
  | array items => itemsComplete items
  | object members => membersComplete members
  | _ => true

/-- All items are complete. -/
def itemsComplete : List Json → Bool
  | [] => true
  | item :: items => item.isComplete && itemsComplete items

/-- All members are complete. -/
def membersComplete : List (Option String × Json) → Bool
  | [] => true
  | (key, value) :: members => key.isSome && value.isComplete && membersComplete members

end

end Json
end PipeQuery

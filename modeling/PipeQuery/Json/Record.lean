import PipeQuery.Json.Basic

/-!
# Records in data trees

A record has named fields.  It is read from an object, in which the fields stand in any order among
other members, or from a list, in which they stand in the order of the record and the last ones may
be missing.  A field that occurs twice makes the object no record.
-/

namespace PipeQuery
namespace Json

/-- The string of a tree. -/
def string? : Json → Option String
  | string value => value
  | _ => none

/-- The truth value of a tree. -/
def bool? : Json → Option Bool
  | bool value => some value
  | _ => none

/-- The finite number of a tree. -/
def number? : Json → Option Binary64
  | number value => value.toBinary64?
  | _ => none

/-- The items of a list, each read by `read?`. -/
def list? {α : Type} (read? : Json → Option α) : Json → Option (List α)
  | array items => items.mapM read?
  | _ => none

/-- The members of an object whose keys are all strings. -/
def namedMembers? (members : List (Option String × Json)) : Option (List (String × Json)) :=
  members.mapM fun (key, value) => key.map (·, value)

/-- The value of a member, or nothing where the key is missing; none where it is repeated. -/
def member? (members : List (String × Json)) (name : String) : Option (Option Json) :=
  match members.filter (·.1 == name) with
  | [] => some none
  | [(_, value)] => some (some value)
  | _ => none

/-- The values of the fields of a record, in the given order, nothing for missing ones. -/
def record? (names : List String) : Json → Option (List (Option Json))
  | object members => do
      let members ← namedMembers? members
      names.mapM (member? members)
  | array items =>
      if items.length ≤ names.length then
        some (items.map some ++ List.replicate (names.length - items.length) none)
      else none
  | _ => none

/-- One of a few words: a string, or an object whose only key is the word and whose value says
nothing.  Where the tree was `held` back until it could be read, the empty object says nothing as
well. -/
def word? (held : Bool) : Json → Option String
  | string value => value
  | object [(key, null)] => key
  | object [(key, object [])] => if held then key else none
  | _ => none

end Json
end PipeQuery

import PipeQuery.Clause
import PipeQuery.Json.Reading
import PipeQuery.Json.Record
import PipeQuery.Json.Writing

/-!
# Clauses as data trees

A clause is written as an object with its tag and its value, which is a record that depends on the
tag.  What holds by default is left out, and numbers that are integers below `2 ^ 53` in size are
written as integers.

Reading accepts more than writing produces: members in any order, unknown members, lists in place
of records, and defaults written out.  When the value of a clause comes before its tag it has to be
held back, and for that all of it must be complete and not too deep.
-/

namespace PipeQuery

/-- Numbers other than integers are written without exponent from `0.00001` up to, but not
including, ten to the sixteenth. -/
def boundLayout : Numeral.Layout :=
  { leastPower := -5, greatestPower := 15 }

/-- The greatest integer that is written as such. -/
def greatestWrittenInteger : Nat := Nat.pow 2 53 - 1

/-- How a bound is written. -/
def boundNumeral (value : Binary64) : Numeral :=
  match value.toInt? with
  | some integer =>
      if integer.natAbs ≤ greatestWrittenInteger then .ofInt integer
      else boundLayout.numeral value.shortest
  | none => boundLayout.numeral value.shortest

namespace Bounds

/-- The bounds as an object. -/
def toJson (bounds : Bounds) : Json :=
  .ofMembers (bounds.toList.map fun (relation, value) =>
    (relation.word, .number (boundNumeral value)))

end Bounds

namespace Constraint

/-- A demand as a record. -/
def toJson (constraint : Constraint) : Json :=
  .ofMembers
    [("op", .ofString constraint.relation.word), ("value", .ofString constraint.version)]

end Constraint

namespace Software

/-- A software as a record. -/
def toJson (software : Software) : Json :=
  .ofMembers
    [("name", .ofString software.name),
      ("version", .array (software.versions.map Constraint.toJson))]

end Software

namespace Clause

/-- The value of a clause. -/
def valueToJson : Clause → Json
  | software request =>
      .ofMembers (("software", .array (request.entries.map Software.toJson)) ::
        (match request.listReference with
          | some reference => [("softwareList", .ofString reference)]
          | none => []) ++
        [("fuzzy", .bool request.fuzzy)])
  | oneOf field values negated =>
      .ofMembers ([("field", .ofString field), ("query", .array (values.map Json.ofString))] ++
        if negated then [("negated", .bool true)] else [])
  | range field bounds => .ofMembers [("field", .ofString field), ("query", bounds.toJson)]
  | matching field text | exact field text =>
      .ofMembers [("field", .ofString field), ("query", .ofString text)]
  | filter name => .ofMembers [("filter", .ofString name)]
  | group field => .ofMembers [("field", .ofString field)]

/-- A clause as an object of its tag and its value. -/
def toJson (clause : Clause) : Json :=
  .ofMembers [("type", .ofString clause.tag), ("value", clause.valueToJson)]

/-- The text of a list of clauses. -/
def writeAll (layout : Json.Layout) (clauses : List Clause) : String :=
  (Json.array (clauses.map toJson)).write layout

end Clause

namespace Relation

/-- The relation that a tree names. -/
def ofJson? (held : Bool) (tree : Json) : Option Relation :=
  (tree.word? held).bind ofWord?

end Relation

namespace Constraint

/-- The demand that a record makes. -/
def ofJson? (held : Bool) (tree : Json) : Option Constraint := do
  match ← tree.record? ["op", "value"] with
  | [some relation, some version] =>
      let relation ← Relation.ofJson? held relation
      let version ← version.string?
      return { relation, version }
  | _ => none

end Constraint

namespace Software

/-- The software that a record describes. -/
def ofJson? (held : Bool) (tree : Json) : Option Software := do
  match ← tree.record? ["name", "version"] with
  | [some name, some versions] =>
      let name ← name.string?
      let versions ← versions.list? (Constraint.ofJson? held)
      return { name, versions }
  | _ => none

end Software

namespace Bounds

/-- The bounds after one more member of an object, which replaces an earlier one of the same
relation. -/
def addMember? (bounds : Bounds) (member : Option String × Json) : Option Bounds := do
  let relation ← member.1.bind Relation.ofWord?
  let value ← member.2.number?
  return bounds.set relation value

/-- The bounds that an object gives. -/
def ofJson? : Json → Option Bounds
  | .object members => members.foldlM addMember? empty
  | _ => none

end Bounds

namespace Json

/-- A string that may be missing or null. -/
def optionalString? : Option Json → Option (Option String)
  | none | some .null => some none
  | some tree => tree.string?.map some

/-- A truth value that is false where it is missing. -/
def flag? : Option Json → Option Bool
  | none => some false
  | some tree => tree.bool?

end Json

namespace SoftwareRequest

/-- The request that a record describes. -/
def ofJson? (held : Bool) (tree : Json) : Option SoftwareRequest := do
  match ← tree.record? ["software", "softwareList", "fuzzy"] with
  | [some entries, listReference, fuzzy] =>
      let entries ← entries.list? (Software.ofJson? held)
      let listReference ← Json.optionalString? listReference
      let fuzzy ← Json.flag? fuzzy
      return { entries, listReference, fuzzy }
  | _ => none

end SoftwareRequest

namespace Clause

/-- The clause that compares a field with a text, from a record of both. -/
def comparisonOfJson? (clause : String → String → Clause) (tree : Json) : Option Clause := do
  match ← tree.record? ["field", "query"] with
  | [some field, some text] => return clause (← field.string?) (← text.string?)
  | _ => none

/-- The clause with the given tag and value. -/
def ofValue? (held : Bool) (tag : String) (value : Json) : Option Clause :=
  match tag with
  | "software" => (SoftwareRequest.ofJson? held value).map software
  | "in" => do
      match ← value.record? ["field", "query", "negated"] with
      | [some field, some values, negated] =>
          let field ← field.string?
          let values ← values.list? Json.string?
          let negated ← Json.flag? negated
          return oneOf field values negated
      | _ => none
  | "range" => do
      match ← value.record? ["field", "query"] with
      | [some field, some bounds] => return range (← field.string?) (← Bounds.ofJson? bounds)
      | _ => none
  | "match" => comparisonOfJson? matching value
  | "exact" => comparisonOfJson? exact value
  | "filter" => do
      match ← value.record? ["filter"] with
      | [some name] => return filter (← name.string?)
      | _ => none
  | "group" => do
      match ← value.record? ["field"] with
      | [some field] => return group (← field.string?)
      | _ => none
  | _ => none

/-- The greatest depth of a value that is held back until its tag is known. -/
def greatestHeldDepth : Nat := 125

/-- A value can be held back. -/
def canBeHeld (value : Json) : Bool :=
  value.isComplete && value.depth ≤ greatestHeldDepth

/-- The value of a clause comes before its tag. -/
def valueComesFirst (members : List (String × Json)) : Bool :=
  (members.find? fun member => member.1 == "type" || member.1 == "value").any (·.1 == "value")

/-- The clause that a tree describes: an object of a tag and a value, or a list of both.  In a list
the tag is a plain string. -/
def ofJson? : Json → Option Clause
  | .object members => do
      let members ← Json.namedMembers? members
      match ← Json.member? members "type", ← Json.member? members "value" with
      | some tag, some value =>
          let held := valueComesFirst members
          if held && !canBeHeld value then none
          else ofValue? held (← tag.word? false) value
      | _, _ => none
  | .array [tag, value] => do ofValue? false (← tag.string?) value
  | _ => none

/-- The clauses of a text. -/
def readAll? (text : String) : Option (List Clause) := do
  (← Json.read? text).list? ofJson?

end Clause
end PipeQuery

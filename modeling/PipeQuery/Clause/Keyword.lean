import PipeQuery.Clause

/-!
# Keywords

Keywords are read without regard to the case of the Latin letters in them.  One keyword may stand
for a comparison with a text and for a relation to a bound; which of them is meant depends on where
it stands.
-/

namespace PipeQuery
namespace Keyword

/-- The word with the Latin capital letters made small. -/
def lower (word : String) : String :=
  word.map Char.toLower

/-- The two ways to compare with a text. -/
inductive Comparison where
  /-- The text is to be found. -/
  | matching
  /-- The text is the whole value. -/
  | equal
  deriving DecidableEq, Repr

/-- The relation to a bound that a keyword stands for. -/
def relation? (word : String) : Option Relation :=
  match lower word with
  | "gt" | ">" => some .gt
  | "gte" | ">=" => some .gte
  | "lt" | "<" => some .lt
  | "lte" | "<=" => some .lte
  | "eq" | "=" | "==" => some .eq
  | _ => none

/-- The comparison with a text that a keyword stands for. -/
def comparison? (word : String) : Option Comparison :=
  match lower word with
  | "match" | "like" | "~" => some .matching
  | "=" | "eq" | "is" | "in" => some .equal
  | _ => none

/-- The keyword in front of a list of values. -/
def isIn (word : String) : Bool :=
  lower word == "in"

/-- The keyword that negates. -/
def isNot (word : String) : Bool :=
  lower word == "not"

/-- Words that start a clause of their own and never name a field. -/
def reserved : List String := ["filter", "group", "software"]

end Keyword
end PipeQuery

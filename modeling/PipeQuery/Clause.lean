import PipeQuery.Number.Binary64

/-!
# Clauses

A query is read into clauses.  A clause compares a field with texts or numbers, asks for software,
filters or groups.  Bounds are kept by relation, one number for each, and come in the order of the
relations.
-/

namespace PipeQuery

/-- How a value is compared with a bound. -/
inductive Relation where
  | gt
  | gte
  | lt
  | lte
  | eq
  deriving DecidableEq, Repr

namespace Relation

/-- All relations in their order. -/
def all : List Relation := [gt, gte, lt, lte, eq]

/-- The word that names a relation. -/
def word : Relation → String
  | gt => "gt"
  | gte => "gte"
  | lt => "lt"
  | lte => "lte"
  | eq => "eq"

/-- The relation that a word names. -/
def ofWord? (word : String) : Option Relation :=
  all.find? fun relation => relation.word == word

/-- The given relations in their order, repeated ones as often as they are given. -/
def sort (relations : List Relation) : List Relation :=
  all.flatMap fun relation => List.replicate (relations.count relation) relation

@[simp]
theorem mem_all (relation : Relation) : relation ∈ all := by
  cases relation <;> simp [all]

@[simp]
theorem ofWord?_word (relation : Relation) : ofWord? relation.word = some relation := by
  cases relation <;> decide

end Relation

/-- At most one bound for each relation. -/
structure Bounds where
  /-- The value exceeds this number. -/
  gt : Option Binary64
  /-- The value is at least this number. -/
  gte : Option Binary64
  /-- The value stays below this number. -/
  lt : Option Binary64
  /-- The value is at most this number. -/
  lte : Option Binary64
  /-- The value is this number. -/
  eq : Option Binary64
  deriving DecidableEq

namespace Bounds

/-- No bound. -/
def empty : Bounds :=
  { gt := none, gte := none, lt := none, lte := none, eq := none }

/-- The bound for a relation. -/
def get? (bounds : Bounds) : Relation → Option Binary64
  | .gt => bounds.gt
  | .gte => bounds.gte
  | .lt => bounds.lt
  | .lte => bounds.lte
  | .eq => bounds.eq

/-- Give the bound for a relation, in place of an earlier one. -/
def set (bounds : Bounds) (relation : Relation) (value : Binary64) : Bounds :=
  match relation with
  | .gt => { bounds with gt := some value }
  | .gte => { bounds with gte := some value }
  | .lt => { bounds with lt := some value }
  | .lte => { bounds with lte := some value }
  | .eq => { bounds with eq := some value }

/-- The bounds that are given, in the order of their relations. -/
def toList (bounds : Bounds) : List (Relation × Binary64) :=
  Relation.all.filterMap fun relation => (bounds.get? relation).map (relation, ·)

@[simp]
theorem get?_empty (relation : Relation) : empty.get? relation = none := by
  cases relation <;> rfl

@[simp]
theorem get?_set (bounds : Bounds) (relation asked : Relation) (value : Binary64) :
    (bounds.set relation value).get? asked =
      if asked = relation then some value else bounds.get? asked := by
  cases relation <;> cases asked <;> simp [set, get?]

end Bounds

/-- One demand on the version of a software. -/
structure Constraint where
  /-- How the version is compared. -/
  relation : Relation
  /-- What it is compared with, as written. -/
  version : String
  deriving DecidableEq, Repr

/-- A software by name, with the demands on its version. -/
structure Software where
  /-- The name, as written. -/
  name : String
  /-- The demands, all of which have to hold. -/
  versions : List Constraint
  deriving DecidableEq, Repr

namespace Software

/-- A software by name alone. -/
def named (name : String) : Software :=
  { name, versions := [] }

/-- Add a demand behind the others. -/
def withVersion (software : Software) (relation : Relation) (version : String) : Software :=
  { software with versions := software.versions ++ [{ relation, version }] }

/-- The relations that the demands use, in the order of the relations. -/
def relations (software : Software) : List Relation :=
  Relation.sort (software.versions.map Constraint.relation)

end Software

/-- A request for software: entries, or the name of a list kept elsewhere. -/
structure SoftwareRequest where
  /-- The software asked for. -/
  entries : List Software
  /-- The name of a list, if one is referred to. -/
  listReference : Option String
  /-- Names need to be alike only. -/
  fuzzy : Bool
  deriving DecidableEq, Repr

/-- One clause of a query. -/
inductive Clause where
  /-- The record concerns some of the software. -/
  | software (request : SoftwareRequest)
  /-- The field is one of the values, or none of them. -/
  | oneOf (field : String) (values : List String) (negated : Bool)
  /-- The field lies within the bounds. -/
  | range (field : String) (bounds : Bounds)
  /-- The field matches a text. -/
  | matching (field text : String)
  /-- The field equals a text. -/
  | exact (field text : String)
  /-- The records pass a filter kept elsewhere. -/
  | filter (name : String)
  /-- The records are grouped by a field. -/
  | group (field : String)
  deriving DecidableEq

namespace Clause

/-- The word that names the sort of a clause. -/
def tag : Clause → String
  | software _ => "software"
  | oneOf _ _ _ => "in"
  | range _ _ => "range"
  | matching _ _ => "match"
  | exact _ _ => "exact"
  | filter _ => "filter"
  | group _ => "group"

/-- The field that a clause is about. -/
def field? : Clause → Option String
  | software _ | filter _ => none
  | oneOf field _ _ | range field _ | matching field _ | exact field _ | group field => some field

end Clause
end PipeQuery

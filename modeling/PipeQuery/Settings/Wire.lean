import PipeQuery.Json.Reading
import PipeQuery.Json.Record
import PipeQuery.Settings

/-!
# Settings as data trees

Settings are read from a record in which every field may be missing; what is missing keeps its
default.
-/

namespace PipeQuery
namespace Settings

/-- The names of the fields of the record. -/
def recordFields : List String :=
  ["fields", "full_text_field", "tolerate_unclosed_strings"]

/-- A value that keeps its default where it is missing. -/
def valueOr? {α : Type} (usual : α) (read? : Json → Option α) : Option Json → Option α
  | none => some usual
  | some tree => read? tree

/-- The settings that a tree describes. -/
def ofJson? (tree : Json) : Option Settings := do
  match ← tree.record? recordFields with
  | [fields, fullTextField, tolerant] =>
      let fields ← valueOr? [] (Json.list? Json.string?) fields
      let fullTextField ← valueOr? default.fullTextField Json.string? fullTextField
      let tolerant ← valueOr? default.tolerant Json.bool? tolerant
      return { fields := .ofList fields, fullTextField, tolerant }
  | _ => none

/-- The settings of a text. -/
def read? (text : String) : Option Settings :=
  (Json.read? text).bind ofJson?

end Settings
end PipeQuery

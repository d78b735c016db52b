import PipeQuery.FieldSet

/-!
# Settings

Settings say which words name fields, which field a bare text is looked for in, and whether an
unclosed text is accepted.
-/

namespace PipeQuery

/-- What a query may use and how it is read. -/
structure Settings where
  /-- The names of the fields. -/
  fields : FieldSet
  /-- The field of a bare text. -/
  fullTextField : String
  /-- An unclosed text counts as closed at the end of the query. -/
  tolerant : Bool
  deriving DecidableEq

namespace Settings

/-- No fields, the usual field for bare texts, and no tolerance. -/
def default : Settings :=
  { fields := .empty, fullTextField := "aggregate", tolerant := false }

/-- Settings that admit the given fields. -/
def ofFields (names : List String) : Settings :=
  { default with fields := .ofList names }

/-- Admit more fields. -/
def withFields (settings : Settings) (names : List String) : Settings :=
  { settings with fields := settings.fields.insertAll names }

/-- Name the field of a bare text. -/
def withFullTextField (settings : Settings) (field : String) : Settings :=
  { settings with fullTextField := field }

/-- Say whether an unclosed text is accepted. -/
def withTolerance (settings : Settings) (tolerant : Bool) : Settings :=
  { settings with tolerant }

/-- A word names a field. -/
def admits (settings : Settings) (word : String) : Bool :=
  word ∈ settings.fields

end Settings
end PipeQuery

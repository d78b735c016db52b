import PipeQuery.Fault

/-!
# Diagnostics

A diagnostic says why a query is refused and shows the place: the characters around the column,
and below them a caret under the character at that column.
-/

namespace PipeQuery

/-- Number of characters shown on either side of a column. -/
def excerptRadius : Nat := 20

/-- The characters of `source` around `column`, a line feed, and a caret under the column. -/
def excerpt (source : List Char) (column : Nat) : String :=
  let first := column - excerptRadius
  String.ofList
    ((source.take (column + excerptRadius)).drop first ++
      '\n' :: List.replicate (column - first) ' ' ++ ['^'])

/-- The refusal of a query. -/
structure Diagnostic where
  /-- Why the query is refused. -/
  cause : Cause
  /-- Offset of the first character that is to blame, in characters. -/
  column : Nat
  /-- The place in the query. -/
  excerpt : String
  deriving DecidableEq, Repr

namespace Diagnostic

/-- The diagnostic of a cause at a column of a query. -/
def locate (cause : Cause) (column : Nat) (source : List Char) : Diagnostic :=
  { cause, column, excerpt := PipeQuery.excerpt source column }

/-- What the diagnostic says. -/
def message (diagnostic : Diagnostic) : String :=
  diagnostic.cause.message

/-- The message above the excerpt. -/
def render (diagnostic : Diagnostic) : String :=
  diagnostic.message ++ "\n" ++ diagnostic.excerpt

end Diagnostic
end PipeQuery

import PipeQuery.Clause.Wire
import PipeQuery.Query.Run

/-!
# The answer to a query as a text

A query that is read is answered by the text of its clauses, in the layout asked for; one that is
refused by the compact text of the diagnostic.
-/

namespace PipeQuery

/-- A diagnostic as an object. -/
def Diagnostic.toJson (diagnostic : Diagnostic) : Json :=
  .ofMembers
    [("code", .ofString diagnostic.cause.code), ("message", .ofString diagnostic.message),
      ("columnNumber", .ofInt diagnostic.column), ("example", .ofString diagnostic.excerpt)]

namespace Query

/-- The text that answers a query. -/
def write (settings : Settings) (layout : Json.Layout) (query : String) : String :=
  match parse settings query with
  | .ok clauses => Clause.writeAll layout clauses
  | .error diagnostic => diagnostic.toJson.write .compact

end Query
end PipeQuery

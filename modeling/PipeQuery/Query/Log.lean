import PipeQuery.Demand.Readers

/-!
# The log of a query

Reading a query on demand reports what happens; the log keeps the reports in their order.
-/

namespace PipeQuery
namespace Query

/-- What reading a query has reported when it ends. -/
def log (settings : Settings) (query : String) : List Event :=
  (OnDemand.parse settings query).2.log

end Query
end PipeQuery

import PipeQuery.Clause
import PipeQuery.Query.Reading

/-!
# Lists of values

A list of values runs up to a pipe or a closing parenthesis.  Right after a comma even these belong
to the list and stand for nothing.  The texts in the list are its values; opening parentheses ask
for a closing one, and all else is passed over.
-/

namespace PipeQuery
namespace Query

/-- What a list of values is made of. -/
structure ValueList where
  /-- The values in order. -/
  values : List String
  /-- An opening parenthesis stands in the list. -/
  opened : Bool
  /-- The tokens behind the list. -/
  rest : List Token
  deriving DecidableEq, Repr

namespace ValueList

/-- Put a value in front. -/
def push (value : String) (list : ValueList) : ValueList :=
  { list with values := value :: list.values }

/-- Read the list, `afterComma` saying that its first token stands right after a comma. -/
def read (afterComma : Bool) : List Token → ValueList
  | [] => { values := [], opened := false, rest := [] }
  | token :: rest =>
      if token.kind.endsList && !afterComma then
        { values := [], opened := false, rest := token :: rest }
      else
        match token.kind with
        | .comma => read true rest
        | .openParen => { read false rest with opened := true }
        | .string | .ident => (read false rest).push token.value
        | .pipe | .closeParen | .operator => read false rest

theorem suffix_read (afterComma : Bool) (tokens : List Token) :
    (read afterComma tokens).rest <:+ tokens := by
  induction tokens generalizing afterComma with
  | nil => exact List.suffix_refl _
  | cons token rest induction =>
      unfold read
      split
      · exact List.suffix_refl _
      · split
        all_goals exact (induction _).trans (List.suffix_cons _ _)

end ValueList

/-- Read the list of values that a field is compared with. -/
def readOneOf (ending : Ending) (field : String) (negated : Bool) (tokens : List Token) :
    Except Failure (Reading Clause) :=
  let list := ValueList.read false tokens
  (readClosing ending list.opened list.rest).map
    (Reading.map fun _ => .oneOf field list.values negated)

end Query
end PipeQuery

import PipeQuery.Clause.Keyword
import PipeQuery.Number.Decimal
import PipeQuery.Query.Reading

/-!
# Chains of bounds

Behind the first bound a chain goes on to the next pipe.  A text or operator that names a relation
is followed by a bound, whatever token that is; every other token is passed over.  Of two bounds
for one relation the later one counts.
-/

namespace PipeQuery
namespace Query

/-- The relation that a token names; punctuation marks name none. -/
def relation? (token : Token) : Option Relation :=
  if token.isText || token.kind = .operator then Keyword.relation? token.value else none

/-- The number that a token gives for a bound. -/
def readBound (field : String) (token : Token) (unlexed : List Token) :
    Except Failure Binary64 :=
  if token.kind = .ident then
    match Binary64.ofWord? token.value with
    | some value => .ok value
    | none => .error (.blame token (.notANumber field token.value) unlexed)
  else .error (.blame token (.expectedNumber field) unlexed)

/-- Read the rest of a chain that has given `bounds` so far. -/
def readChain (ending : Ending) (field : String) (bounds : Bounds) :
    List Token → Except Failure (Reading Bounds)
  | [] => ending.settle.map fun _ => { value := bounds, lookedAhead := true, rest := [] }
  | token :: rest =>
      if token.kind = .pipe then
        .ok { value := bounds, lookedAhead := true, rest := token :: rest }
      else
        match relation? token with
        | none => readChain ending field bounds rest
        | some relation =>
            match rest with
            | [] => .error (ending.refuse (.expectedNumber field))
            | operand :: rest =>
                match readBound field operand rest with
                | .error failure => .error failure
                | .ok value => readChain ending field (bounds.set relation value) rest

/-- Read a chain of bounds, the relation of the first one being known. -/
def readRange (ending : Ending) (field : String) (relation : Relation) :
    List Token → Except Failure (Reading Clause)
  | [] => .error (ending.refuse (.expectedNumber field))
  | operand :: rest => do
      let value ← readBound field operand rest
      let chain ← readChain ending field (Bounds.empty.set relation value) rest
      return chain.map (.range field)

/-- A chain that is read has its first bound and the others. -/
theorem exists_of_readRange {ending : Ending} {field : String} {relation : Relation}
    {tokens : List Token} {reading : Reading Clause}
    (read : readRange ending field relation tokens = .ok reading) :
    ∃ operand rest value chain, tokens = operand :: rest ∧
      readBound field operand rest = .ok value ∧
      readChain ending field (Bounds.empty.set relation value) rest = .ok chain ∧
      reading = chain.map (.range field) := by
  cases tokens with
  | nil => cases read
  | cons operand rest =>
      simp only [readRange] at read
      cases bound : readBound field operand rest with
      | error failure => rw [bound] at read; cases read
      | ok value =>
          rw [bound] at read
          simp only [bind, Except.bind] at read
          cases chained : readChain ending field (Bounds.empty.set relation value) rest with
          | error failure => rw [chained] at read; cases read
          | ok chain =>
              rw [chained] at read
              cases read
              exact ⟨operand, rest, value, chain, rfl, bound, chained, rfl⟩

theorem suffix_of_readChain {ending : Ending} {field : String} {bounds : Bounds}
    {tokens : List Token} {reading : Reading Bounds}
    (read : readChain ending field bounds tokens = .ok reading) : reading.rest <:+ tokens := by
  fun_induction readChain ending field bounds tokens with
  | case1 =>
      unfold Ending.settle at read
      split at read <;> cases read
      exact List.suffix_refl _
  | case2 =>
      cases read
      exact List.suffix_refl _
  | case3 _ _ _ _ _ induction => exact (induction read).trans (List.suffix_cons _ _)
  | case4 => cases read
  | case5 => cases read
  | case6 _ token _ _ _ operand rest _ _ induction =>
      exact (induction read).trans ((List.suffix_cons _ _).trans (List.suffix_cons _ _))

end Query
end PipeQuery

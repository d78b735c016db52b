import PipeQuery.Fault
import PipeQuery.Token

/-!
# Reading clauses from tokens

A reader takes tokens from the front of a list and returns what they mean together with the tokens
left.  Behind the last token stands an ending: either the end of the query or a fault in its text,
which shows as soon as a reader takes or looks at what comes after the last token.  A reader also
says how far it has looked, since tokens are made only when they are asked for.
-/

namespace PipeQuery
namespace Query

/-- Why reading stopped, where, and which tokens had not been asked for by then. -/
structure Failure where
  /-- The cause. -/
  cause : Cause
  /-- The offset in the query that is to blame. -/
  column : Nat
  /-- The tokens that no reader has looked at. -/
  unlexed : List Token
  deriving DecidableEq, Repr

/-- A token is to blame. -/
def Failure.blame (token : Token) (cause : Cause) (unlexed : List Token) : Failure :=
  { cause, column := token.pos, unlexed }

/-- What stands behind the last token. -/
structure Ending where
  /-- A fault in the text; without one the query ends. -/
  fault : Option LexicalFault
  /-- Number of characters of the query. -/
  length : Nat
  deriving DecidableEq, Repr

namespace Ending

/-- A token is wanted behind the last one: the fault there comes first, otherwise the end of the
query is to blame. -/
def refuse (ending : Ending) (cause : Cause) : Failure :=
  match ending.fault with
  | some fault =>
      { cause := .lexical fault, column := fault.column ending.length, unlexed := [] }
  | none => { cause, column := ending.length, unlexed := [] }

/-- Looking behind the last token finds the end of the query, unless a fault stands there. -/
def settle (ending : Ending) : Except Failure Unit :=
  match ending.fault with
  | some fault =>
      .error { cause := .lexical fault, column := fault.column ending.length, unlexed := [] }
  | none => .ok ()

end Ending

/-- What a reader has read. -/
structure Reading (α : Type) where
  /-- The meaning of the tokens taken. -/
  value : α
  /-- The token after them has been looked at. -/
  lookedAhead : Bool
  /-- The tokens not taken. -/
  rest : List Token
  deriving DecidableEq, Repr

namespace Reading

/-- The tokens that the reader has not looked at. -/
def unlexed {α : Type} (reading : Reading α) : List Token :=
  if reading.lookedAhead then reading.rest.tail else reading.rest

/-- The same reading with another meaning. -/
def map {α β : Type} (f : α → β) (reading : Reading α) : Reading β :=
  { reading with value := f reading.value }

end Reading

/-- Take a closing parenthesis if it comes next; without it nothing is taken, which is refused when
one is required. -/
def readClosing (ending : Ending) (required : Bool) :
    List Token → Except Failure (Reading Unit)
  | [] =>
      if required then .error (ending.refuse .expectedClosingParen)
      else ending.settle.map fun _ => { value := (), lookedAhead := true, rest := [] }
  | token :: rest =>
      if token.kind = .closeParen then .ok { value := (), lookedAhead := false, rest }
      else if required then .error (.blame token .expectedClosingParen rest)
      else .ok { value := (), lookedAhead := true, rest := token :: rest }

/-- A reading with its meaning changed comes from one without. -/
theorem exists_of_map_ok {α β : Type} {f : α → β} {outcome : Except Failure (Reading α)}
    {reading : Reading β} (mapped : outcome.map (Reading.map f) = .ok reading) :
    ∃ inner, outcome = .ok inner ∧ reading = inner.map f := by
  cases outcome with
  | error failure => cases mapped
  | ok inner => exact ⟨inner, rfl, (Except.ok.inj mapped).symm⟩

/-- Two changes of the meaning are one. -/
theorem map_map_reading {α β γ : Type} (f : α → β) (g : β → γ)
    (outcome : Except Failure (Reading α)) :
    (outcome.map (Reading.map f)).map (Reading.map g) = outcome.map (Reading.map (g ∘ f)) := by
  cases outcome <;> rfl

theorem suffix_of_readClosing {ending : Ending} {required : Bool} {tokens : List Token}
    {reading : Reading Unit} (read : readClosing ending required tokens = .ok reading) :
    reading.rest <:+ tokens := by
  unfold readClosing at read
  split at read
  · split at read
    · cases read
    · unfold Ending.settle at read
      split at read <;> cases read
      exact List.suffix_refl _
  · split at read
    · cases read
      exact List.suffix_cons _ _
    · split at read <;> cases read
      exact List.suffix_refl _

end Query
end PipeQuery

import PipeQuery.Token

/-!
# Events

Reading a query reports every token when it is made, every clause when it is complete, and its end.
Tokens are made when they are asked for, so the reports show how far ahead of the clauses the
reading has looked.
-/

namespace PipeQuery
namespace Query

/-- What reading a query reports. -/
inductive Event where
  /-- A token was made. -/
  | lexed (token : Token)
  /-- A clause was completed; its tag and its field are shown. -/
  | completed (tag : String) (field? : Option String)
  /-- All tokens were read into so many clauses. -/
  | finished (clauses : Nat)
  /-- The query was refused; the name of the cause and the column are shown. -/
  | rejected (code : String) (column : Nat)
  deriving DecidableEq

namespace Event

/-- The token that an event reports. -/
def token? : Event → Option Token
  | lexed token => some token
  | _ => none

/-- What an event shows of a clause. -/
def clause? : Event → Option (String × Option String)
  | completed tag field? => some (tag, field?)
  | _ => none

/-- The event reports the end of the reading. -/
def ends : Event → Bool
  | finished _ | rejected _ _ => true
  | _ => false

end Event

/-- The tokens that are reported. -/
def loggedTokens (events : List Event) : List Token :=
  events.filterMap Event.token?

/-- What is reported of clauses: the tag and the field of each. -/
def loggedClauses (events : List Event) : List (String × Option String) :=
  events.filterMap Event.clause?

theorem loggedTokens_append (front back : List Event) :
    loggedTokens (front ++ back) = loggedTokens front ++ loggedTokens back :=
  List.filterMap_append

theorem loggedClauses_append (front back : List Event) :
    loggedClauses (front ++ back) = loggedClauses front ++ loggedClauses back :=
  List.filterMap_append

/-- How much may be reported. -/
inductive Scope where
  /-- Tokens only. -/
  | tokens
  /-- Tokens and clauses. -/
  | clauses

/-- The event may be reported. -/
def Scope.admits : Scope → Event → Bool
  | _, .lexed _ => true
  | .clauses, .completed _ _ => true
  | _, _ => false

/-- What may be reported where only tokens are may be reported anywhere. -/
theorem Scope.admits_of_tokens {event : Event} (admitted : tokens.admits event = true)
    (scope : Scope) : scope.admits event = true := by
  cases event with
  | lexed token => cases scope <;> rfl
  | completed | finished | rejected => cases admitted

/-- The end is never in scope. -/
theorem Scope.ends_of_admits {scope : Scope} {event : Event}
    (admitted : scope.admits event = true) : event.ends = false := by
  cases event with
  | lexed | completed => rfl
  | finished | rejected => cases scope <;> cases admitted

theorem loggedTokens_map_lexed (tokens : List Token) :
    loggedTokens (tokens.map .lexed) = tokens := by
  simp [loggedTokens, List.filterMap_map, Function.comp_def, Event.token?]

theorem loggedClauses_map_lexed (tokens : List Token) : loggedClauses (tokens.map .lexed) = [] := by
  simp [loggedClauses, List.filterMap_map, Function.comp_def, Event.clause?]

/-- Where only tokens may be reported, nothing else is. -/
theorem map_lexed_loggedTokens {events : List Event}
    (admitted : ∀ event ∈ events, Scope.tokens.admits event = true) :
    (loggedTokens events).map .lexed = events := by
  induction events with
  | nil => rfl
  | cons event events induction =>
      obtain ⟨first, others⟩ := List.forall_mem_cons.mp admitted
      cases event with
      | lexed token => exact congrArg (.lexed token :: ·) (induction others)
      | completed | finished | rejected => cases first

end Query
end PipeQuery

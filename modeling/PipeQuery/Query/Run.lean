import PipeQuery.Diagnostic
import PipeQuery.Query.ClauseReading
import PipeQuery.Token.Stream

/-!
# Reading a query

A run reads clause after clause until no token is left or a clause is refused.  Pipes in front of a
clause are passed over; the clauses before a refusal are kept, since the log shows them as well.
-/

namespace PipeQuery

instance decidableEqOutcome {ε α : Type} [DecidableEq ε] [DecidableEq α] :
    DecidableEq (Except ε α)
  | .ok value, .ok value' => decidable_of_iff (value = value') (by simp)
  | .error error, .error error' => decidable_of_iff (error = error') (by simp)
  | .ok _, .error _ => .isFalse nofun
  | .error _, .ok _ => .isFalse nofun

namespace Query

/-- A clause that a run has completed. -/
structure Completed where
  /-- The clause. -/
  clause : Clause
  /-- The tokens that had not been asked for when the clause was complete. -/
  unlexed : List Token
  deriving DecidableEq

/-- What a run has done. -/
structure Run where
  /-- The clauses in order. -/
  completed : List Completed
  /-- Why the run stopped before the end, if it did. -/
  failure : Option Failure
  deriving DecidableEq

namespace Run

/-- The run that ends at once. -/
def stop (failure : Option Failure) : Run :=
  { completed := [], failure }

/-- Put the outcome of a clause in front of the run after it. -/
def push (reading : Reading (Option Clause)) (run : Run) : Run :=
  match reading.value with
  | some clause =>
      { run with completed := { clause, unlexed := reading.unlexed } :: run.completed }
  | none => run

/-- The clauses of a run, unless it failed. -/
def outcome (run : Run) : Except Failure (List Clause) :=
  match run.failure with
  | some failure => .error failure
  | none => .ok (run.completed.map Completed.clause)

end Run

/-- Read clauses up to the last token. -/
def readClauses (settings : Settings) (ending : Ending) (tokens : List Token) : Run :=
  match tokens with
  | [] =>
      match ending.settle with
      | .ok _ => .stop none
      | .error failure => .stop (some failure)
  | token :: rest =>
      if token.kind = .pipe then readClauses settings ending rest
      else
        match _ : readClause settings ending token rest with
        | .ok reading => (readClauses settings ending reading.rest).push reading
        | .error failure => .stop (some failure)
  termination_by tokens.length
  decreasing_by
    · simp
    · have := (suffix_of_readClause ‹_›).length_le
      simp only [List.length_cons]
      omega

theorem readClauses_pipe (settings : Settings) (ending : Ending) {token : Token}
    (rest : List Token) (isPipe : token.kind = .pipe) :
    readClauses settings ending (token :: rest) = readClauses settings ending rest := by
  rw [readClauses, if_pos isPipe]

theorem readClauses_of_ok {settings : Settings} {ending : Ending} {token : Token}
    {rest : List Token} {reading : Reading (Option Clause)} (notPipe : token.kind ≠ .pipe)
    (read : readClause settings ending token rest = .ok reading) :
    readClauses settings ending (token :: rest) =
      (readClauses settings ending reading.rest).push reading := by
  rw [readClauses, if_neg notPipe]
  split
  · next reading' read' =>
      rw [read'] at read
      cases read
      rfl
  · next read' => rw [read'] at read; cases read

theorem readClauses_of_error {settings : Settings} {ending : Ending} {token : Token}
    {rest : List Token} {failure : Failure} (notPipe : token.kind ≠ .pipe)
    (read : readClause settings ending token rest = .error failure) :
    readClauses settings ending (token :: rest) = .stop (some failure) := by
  rw [readClauses, if_neg notPipe]
  split
  · next read' => rw [read'] at read; cases read
  · next failure' read' =>
      rw [read'] at read
      cases read
      rfl

theorem outcome_push (reading : Reading (Option Clause)) (run : Run) :
    (run.push reading).outcome = run.outcome.map (reading.value.toList ++ ·) := by
  obtain ⟨value, lookedAhead, rest⟩ := reading
  obtain ⟨completed, failure⟩ := run
  cases value <;> cases failure <;> rfl

/-- A failure does not depend on the clauses in front of it. -/
theorem outcome_of_push_error {reading : Reading (Option Clause)} {run : Run} {failure : Failure}
    (failed : (run.push reading).outcome = .error failure) : run.outcome = .error failure := by
  rw [outcome_push] at failed
  cases inner : run.outcome with
  | error failure' => rw [inner] at failed; exact failed
  | ok later => rw [inner] at failed; cases failed

/-- Clauses in front of an outcome come from clauses in front of its list. -/
theorem exists_of_outcome_push {reading : Reading (Option Clause)} {run : Run}
    {clauses : List Clause} (outcome : (run.push reading).outcome = .ok clauses) :
    ∃ later, run.outcome = .ok later ∧ clauses = reading.value.toList ++ later := by
  rw [outcome_push] at outcome
  cases inner : run.outcome with
  | error failure => rw [inner] at outcome; cases outcome
  | ok later =>
      rw [inner] at outcome
      exact ⟨later, rfl, (Except.ok.inj outcome).symm⟩

/-- A query that is read and starts with no pipe starts with a clause. -/
theorem exists_of_outcome_cons {settings : Settings} {ending : Ending} {token : Token}
    {rest : List Token} {clauses : List Clause} (notPipe : token.kind ≠ .pipe)
    (outcome : (readClauses settings ending (token :: rest)).outcome = .ok clauses) :
    ∃ reading later, readClause settings ending token rest = .ok reading ∧
      (readClauses settings ending reading.rest).outcome = .ok later ∧
      clauses = reading.value.toList ++ later := by
  cases read : readClause settings ending token rest with
  | error failure =>
      rw [readClauses_of_error notPipe read] at outcome
      cases outcome
  | ok reading =>
      rw [readClauses_of_ok notPipe read] at outcome
      obtain ⟨later, inner, split⟩ := exists_of_outcome_push outcome
      exact ⟨reading, later, rfl, inner, split⟩

/-- A query that is read has no fault in its text. -/
theorem fault_eq_none_of_outcome {settings : Settings} {ending : Ending} {tokens : List Token}
    {clauses : List Clause}
    (outcome : (readClauses settings ending tokens).outcome = .ok clauses) :
    ending.fault = none := by
  fun_induction readClauses settings ending tokens generalizing clauses with
  | case1 _ settled =>
      cases fault : ending.fault with
      | none => rfl
      | some fault' => simp [Ending.settle, fault] at settled
  | case2 => cases outcome
  | case3 token rest isPipe induction => exact induction outcome
  | case4 token rest notPipe reading read induction =>
      obtain ⟨later, inner, -⟩ := exists_of_outcome_push outcome
      exact induction inner
  | case5 => cases outcome

/-- The tokens of a query. -/
def tokens (settings : Settings) (query : String) : TokenStream :=
  TokenStream.read settings.tolerant query.toList

/-- Run over a query. -/
def run (settings : Settings) (query : String) : Run :=
  let stream := tokens settings query
  readClauses settings { fault := stream.fault, length := query.toList.length } stream.tokens

/-- The diagnostic of a failure in a query. -/
def Failure.diagnose (query : String) (failure : Failure) : Diagnostic :=
  .locate failure.cause failure.column query.toList

/-- The clauses of a query, or why it is refused. -/
def parse (settings : Settings) (query : String) : Except Diagnostic (List Clause) :=
  (run settings query).outcome.mapError (Failure.diagnose query)

section Parse

variable {settings : Settings} {query : String}

theorem parse_of_outcome {clauses : List Clause}
    (outcome : (run settings query).outcome = .ok clauses) :
    parse settings query = .ok clauses := by
  rw [parse, outcome]
  rfl

theorem outcome_of_parse {clauses : List Clause} (parsed : parse settings query = .ok clauses) :
    (run settings query).outcome = .ok clauses := by
  cases outcome : (run settings query).outcome with
  | error failure => rw [parse, outcome] at parsed; cases parsed
  | ok found => rw [parse, outcome] at parsed; cases parsed; rfl

theorem exists_failure_of_parse {diagnostic : Diagnostic}
    (refused : parse settings query = .error diagnostic) :
    ∃ failure, (run settings query).outcome = .error failure ∧
      diagnostic = failure.diagnose query := by
  cases outcome : (run settings query).outcome with
  | error failure =>
      rw [parse, outcome] at refused
      exact ⟨failure, rfl, (Except.error.inj refused).symm⟩
  | ok clauses => rw [parse, outcome] at refused; cases refused

end Parse

end Query
end PipeQuery

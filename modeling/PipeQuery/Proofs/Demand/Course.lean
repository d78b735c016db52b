import PipeQuery.Proofs.Demand.Agreement
import PipeQuery.Query.Log

/-!
# The course of reading a query

Reading a query on demand gives what is read from the list of its tokens (`OnDemand.parse_eq`).  The
list readers say which tokens have been looked at when a clause is complete and when one is refused;
the log shows that these are the tokens made by then (`Query.log_eq_logFrom`).
-/

namespace PipeQuery
namespace Query

/-! ## The log of a run -/

/-- The reports of the tokens made between two moments, given by the tokens that were still to be
made at each. -/
def lexedBetween (before after : List Token) : List Event :=
  (before.take (before.length - after.length)).map .lexed

/-- The reports of a run from the moment when `unlexed` were still to be made; `count` clauses were
completed before. -/
def logFrom (unlexed : List Token) (count : Nat) (failure : Option Failure) :
    List Completed → List Event
  | [] =>
      match failure with
      | some failure =>
          lexedBetween unlexed failure.unlexed ++ [.rejected failure.cause.code failure.column]
      | none => lexedBetween unlexed [] ++ [.finished count]
  | completed :: later =>
      lexedBetween unlexed completed.unlexed ++
        .completed completed.clause.tag completed.clause.field? ::
          logFrom completed.unlexed (count + 1) failure later

/-- What is left to be made becomes less from clause to clause, always at the end of the tokens. -/
def Recedes (failure : Option Failure) (unlexed : List Token) : List Completed → Prop
  | [] => ∀ failure' ∈ failure, failure'.unlexed <:+ unlexed
  | completed :: later =>
      completed.unlexed <:+ unlexed ∧ Recedes failure completed.unlexed later

theorem lexedBetween_append (made after : List Token) :
    lexedBetween (made ++ after) after = made.map .lexed := by
  simp [lexedBetween]

theorem lexedBetween_trans {before middle after : List Token} (first : middle <:+ before)
    (second : after <:+ middle) :
    lexedBetween before middle ++ lexedBetween middle after = lexedBetween before after := by
  obtain ⟨made, rfl⟩ := first
  obtain ⟨more, rfl⟩ := second
  rw [lexedBetween_append, lexedBetween_append, ← List.append_assoc, lexedBetween_append,
    List.map_append]

section Recedes

variable {failure : Option Failure} {earlier unlexed : List Token} {completed : List Completed}

theorem Recedes.mono (recedes : Recedes failure unlexed completed) (isEnd : unlexed <:+ earlier) :
    Recedes failure earlier completed := by
  cases completed with
  | nil => exact fun failure' failed => (recedes failure' failed).trans isEnd
  | cons first later => exact ⟨recedes.1.trans isEnd, recedes.2⟩

/-- A run that starts earlier reports the tokens made until then in front. -/
theorem Recedes.logFrom_earlier (recedes : Recedes failure unlexed completed)
    (isEnd : unlexed <:+ earlier) (count : Nat) :
    lexedBetween earlier unlexed ++ logFrom unlexed count failure completed =
      logFrom earlier count failure completed := by
  cases completed with
  | nil =>
      cases failure with
      | none => rw [logFrom, logFrom, ← List.append_assoc, lexedBetween_trans isEnd List.nil_suffix]
      | some failure =>
          rw [logFrom, logFrom, ← List.append_assoc, lexedBetween_trans isEnd (recedes failure rfl)]
  | cons first later =>
      rw [logFrom, logFrom, ← List.append_assoc, lexedBetween_trans isEnd recedes.1]

end Recedes
end Query

namespace Supply

open Query

variable {before after : Supply}

/-- Where only tokens may be reported, the tokens made are reported, in their order. -/
theorem Passes.exists_made (passes : Passes .tokens before after) :
    ∃ made, after.log = before.log ++ made.map .lexed ∧
      before.unlexed = made ++ after.unlexed := by
  obtain ⟨-, events, reports⟩ := passes
  refine ⟨loggedTokens events, ?_, reports.unlexed⟩
  rw [reports.log, map_lexed_loggedTokens reports.admitted]

theorem Passes.unlexed_suffix (passes : Passes .tokens before after) :
    after.unlexed <:+ before.unlexed := by
  obtain ⟨made, -, unlexed⟩ := passes.exists_made
  exact ⟨made, unlexed.symm⟩

theorem Passes.log_eq (passes : Passes .tokens before after) :
    after.log = before.log ++ lexedBetween before.unlexed after.unlexed := by
  obtain ⟨made, log, unlexed⟩ := passes.exists_made
  rw [log, unlexed, lexedBetween_append]

end Supply

namespace OnDemand

open Query

variable {supply after : Supply} {ending : Ending}

/-- A reading on demand that started at a supply behind some clauses ended as the run over the
tokens did, and reported what the run says. -/
structure Tells (query : String) (supply : Supply) (clauses : List Clause) (run : Run)
    (ends : Except Diagnostic (List Clause) × Supply) : Prop where
  outcome : ends.1 = (run.outcome.map (clauses ++ ·)).mapError (Failure.diagnose query)
  log : ends.2.log = supply.log ++ logFrom supply.unlexed clauses.length run.failure run.completed
  recedes : Recedes run.failure supply.unlexed run.completed

section Tells

variable {query : String} {clauses : List Clause} {run : Run}

/-- The tokens came to an end. -/
theorem tells_ended (passes : Supply.Passes .tokens supply after) (nothing : after.unlexed = []) :
    Tells query supply clauses (.stop none) (conclude query.toList (.ok clauses, after)) where
  outcome := by
    change Except.ok clauses = .ok (clauses ++ [])
    rw [List.append_nil]
  log := by
    have told := passes.log_eq
    rw [nothing] at told
    simp [conclude, Supply.report, told, Run.stop, logFrom]
  recedes := nofun

/-- The reading was refused. -/
theorem tells_refused {reason : Halt} {failure : Failure}
    (passes : Supply.Passes .tokens supply after) (cause : reason.cause = failure.cause)
    (column : reason.column?.getD after.column = failure.column)
    (unlexed : after.unlexed = failure.unlexed) :
    Tells query supply clauses (.stop (some failure))
      (conclude query.toList (.error reason, after)) where
  outcome := by
    change Except.error (Diagnostic.locate reason.cause (reason.column?.getD after.column) _) =
      .error (failure.diagnose query)
    rw [cause, column]
    rfl
  log := by
    have told := passes.log_eq
    rw [unlexed] at told
    simp [conclude, Supply.report, told, Run.stop, logFrom, cause, column]
  recedes := by
    rintro _ ⟨⟩
    rw [← unlexed]
    exact passes.unlexed_suffix

/-- The tokens came to a clause that is missing. -/
theorem tells_missing {reading : Reading (Option Clause)}
    {ends : Except Diagnostic (List Clause) × Supply}
    (passes : Supply.Passes .tokens supply after) (missing : reading.value = none)
    (later : Tells query after clauses run ends) :
    Tells query supply clauses (run.push reading) ends := by
  have same : run.push reading = run := by simp only [Run.push, missing]
  rw [same]
  refine ⟨later.outcome, ?_, later.recedes.mono passes.unlexed_suffix⟩
  rw [later.log, passes.log_eq, List.append_assoc,
    later.recedes.logFrom_earlier passes.unlexed_suffix]

/-- A clause was completed and reported. -/
theorem tells_completed {reading : Reading (Option Clause)} {clause : Clause}
    {ends : Except Diagnostic (List Clause) × Supply}
    (passes : Supply.Passes .tokens supply after) (value : reading.value = some clause)
    (unlexed : after.unlexed = reading.unlexed)
    (later : Tells query (after.report (.completed clause.tag clause.field?))
      (clauses ++ [clause]) run ends) :
    Tells query supply clauses (run.push reading) ends := by
  have behind : (after.report (.completed clause.tag clause.field?)).unlexed = reading.unlexed :=
    unlexed
  obtain ⟨outcome, log, recedes⟩ := later
  rw [behind] at log recedes
  refine ⟨?_, ?_, ?_⟩
  · rw [outcome, outcome_push, value]
    cases run.outcome <;> simp [Except.map]
  · have told := passes.log_eq
    rw [unlexed] at told
    simp only [Run.push, value, logFrom]
    rw [log, Supply.report, told, List.length_append, List.append_assoc, List.append_assoc]
    rfl
  · simp only [Run.push, value]
    refine ⟨?_, recedes⟩
    rw [← unlexed]
    exact passes.unlexed_suffix

end Tells

/-- Reading clauses on demand tells what the run over the tokens ahead says. -/
theorem tells_clauseLoop {supply : Supply} {lookedAhead : Bool} {tokens : List Token}
    (stands : Stands supply ending lookedAhead tokens) (settings : Settings) (query : String)
    (clauses : List Clause) :
    Tells query supply clauses (readClauses settings ending tokens)
      (conclude query.toList (((clauseLoop settings).run clauses).run supply)) := by
  have asked : Supply.Passes .tokens supply supply.peek.2 := supply.passes_peek .tokens
  rw [run_clauseLoop]
  match tokens, stands with
  | [], stands =>
      rw [readClauses]
      rcases next_nil stands with ⟨found, ended⟩ | ⟨fault, failed, found, column, unlexed⟩
      · rw [← peek_nil stands] at found ended
        rw [settle_of_ended ended, ← Prod.eta supply.peek, found]
        exact tells_ended asked ended.stands.unlexed
      · rw [← peek_nil stands] at found column unlexed
        rw [Ending.settle, failed, ← Prod.eta supply.peek, found]
        exact tells_refused asked rfl column unlexed
  | token :: rest, stands =>
      obtain ⟨found, middle, -⟩ := peek_cons stands
      have agrees := agrees_readClause middle settings
      have passes := asked.trans ((readClause settings).orderly supply.peek.2)
      rw [← Prod.eta supply.peek, found]
      simp only
      generalize (readClause settings).run supply.peek.2 = ends at agrees passes
      generalize read : readBehindPipes settings ending (token :: rest) = outcome at agrees
      cases agrees with
      | error cause column unlexed =>
          rw [readClauses_of_refused read]
          exact tells_refused passes cause column unlexed
      | @ok after reading behind =>
          have shorter := (suffix_of_readBehindPipes read).length_le
          rw [readClauses_of_read read]
          cases value : reading.value with
          | none =>
              exact tells_missing passes value (tells_clauseLoop behind settings query clauses)
          | some clause =>
              have reported : Stands (after.report (.completed clause.tag clause.field?)) ending
                  reading.lookedAhead reading.rest :=
                ⟨behind.ahead, behind.lookahead, behind.length, behind.within⟩
              exact tells_completed passes value behind.unlexed
                (tells_clauseLoop reported settings query (clauses ++ [clause]))
  termination_by tokens.length
  decreasing_by
    all_goals
      simp only [List.tail_cons] at shorter
      simp only [List.length_cons]
      omega

theorem stands_start (settings : Settings) (query : String) :
    Stands (.start settings.tolerant query)
      { fault := (tokens settings query).fault, length := query.toList.length } false
      (tokens settings query).tokens :=
  ⟨rfl, rfl, rfl, Nat.zero_le _⟩

/-- Reading a query on demand tells what the run over its tokens says. -/
theorem tells_parse (settings : Settings) (query : String) :
    Tells query (.start settings.tolerant query) [] (Query.run settings query)
      (parse settings query) :=
  tells_clauseLoop (stands_start settings query) settings query []

/-- Reading a query on demand is reading it from the list of its tokens. -/
theorem parse_eq (settings : Settings) (query : String) :
    (parse settings query).1 = Query.parse settings query := by
  rw [(tells_parse settings query).outcome, Query.parse]
  cases (Query.run settings query).outcome <;> rfl

end OnDemand

namespace Query

/-- The log of a query shows what the list readers say of the tokens that have been looked at. -/
theorem log_eq_logFrom (settings : Settings) (query : String) :
    log settings query =
      logFrom (tokens settings query).tokens 0 (run settings query).failure
        (run settings query).completed :=
  (OnDemand.tells_parse settings query).log

end Query
end PipeQuery

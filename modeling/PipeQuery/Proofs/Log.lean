import PipeQuery.Proofs.Demand.Course
import PipeQuery.Proofs.Token.Iteration

/-!
# The log of a query tells what happened

Whatever a parser has done, the tokens reported are those given away and the one looked at
(`Supply.Passes.loggedTokens_eq`).  The rounds of reading clauses report each clause when it is
complete, and nothing else but tokens.  So the log of a query reports its tokens in order, up to the
one that was last asked for, and its clauses, and then its end, and when a clause is reported, at
most one token more than those taken so far has been made (`Query.log_faithful`).
-/

namespace PipeQuery

open Query

/-- What is ahead of a reader is the token looked at and the tokens that have not been made. -/
theorem Supply.tokens_ahead (supply : Supply) :
    supply.reader.ahead.tokens = supply.reader.lookahead.toList ++ supply.unlexed := by
  cases waiting : supply.reader.lookahead with
  | some token => rw [TokenReader.ahead_of_waiting waiting]; rfl
  | none => rw [TokenReader.ahead_of_empty waiting]; rfl

/-- The tokens reported since the start are those given away and the one looked at. -/
theorem Supply.Passes.loggedTokens_eq {scope : Scope} {tolerant : Bool} {query : String}
    {supply : Supply} (passes : Passes scope (.start tolerant query) supply) :
    loggedTokens supply.log = supply.given ++ supply.reader.lookahead.toList ∧
      (start tolerant query).unlexed = loggedTokens supply.log ++ supply.unlexed := by
  obtain ⟨⟨taken, draws⟩, events, reports⟩ := passes
  have given : supply.given = taken := draws.given
  have log : supply.log = events := reports.log
  have ahead : (start tolerant query).unlexed = taken ++ supply.reader.ahead.tokens := draws.ahead
  rw [tokens_ahead, ← List.append_assoc, reports.unlexed] at ahead
  rw [log, given]
  exact ⟨List.append_cancel_right ahead, reports.unlexed⟩

/-- Where only tokens may be reported, no clause is. -/
theorem Supply.Passes.loggedClauses_eq {before after : Supply}
    (passes : Passes .tokens before after) :
    loggedClauses after.log = loggedClauses before.log := by
  obtain ⟨made, log, -⟩ := passes.exists_made
  rw [log, loggedClauses_append, loggedClauses_map_lexed, List.append_nil]

/-- An event that is not among the last ones stands in front of them. -/
private theorem exists_of_append_eq {front back before behind : List Event} {event : Event}
    (absent : event ∉ back) (split : front ++ back = before ++ event :: behind) :
    ∃ between, front = before ++ event :: between := by
  rcases List.append_eq_append_iff.mp split with ⟨between, rfl, rest⟩ | ⟨between, rfl, rest⟩
  · exact absurd (rest ▸ List.mem_append_right between List.mem_cons_self) absent
  · cases between with
    | nil => exact absurd (rest ▸ List.mem_cons_self : event ∈ [] ++ back) absent
    | cons first between =>
        obtain ⟨rfl, -⟩ := List.cons.inj rest
        exact ⟨between, rfl⟩

/-- Where only tokens may be reported, a report of a clause has been there before. -/
theorem Supply.Passes.exists_completed {before after : Supply} {front behind : List Event}
    {tag : String} {field? : Option String} (passes : Passes .tokens before after)
    (split : after.log = front ++ .completed tag field? :: behind) :
    ∃ between, before.log = front ++ .completed tag field? :: between := by
  obtain ⟨made, log, -⟩ := passes.exists_made
  refine exists_of_append_eq (fun member => ?_) (log.symm.trans split)
  obtain ⟨token, -, ⟨⟩⟩ := List.mem_map.mp member

namespace OnDemand

variable {settings : Settings} {query : String}

/-- Reading a query has just completed a clause, behind the clauses before. -/
def Completing (settings : Settings) (query : String) (clauses : List Clause) (clause : Clause)
    (moment : Supply) : Prop :=
  ∃ before middle,
    (clauseLoop settings).Reaches [] (.start settings.tolerant query) clauses before ∧
      (upcoming (clauseLoop settings).accepts : OnDemand .clauses Bool).run before =
        (.ok true, middle) ∧
      (readClause settings).run middle = (.ok (some clause), moment)

/-! ## Rounds -/

section Rounds

variable {clauses next : List Clause} {before middle after : Supply}

/-- Reading a clause reports tokens only, behind the look that starts the round. -/
theorem passes_readClause {outcome : Except Halt (Option Clause)}
    (asked : (upcoming (clauseLoop settings).accepts : OnDemand .clauses Bool).run before =
      (.ok true, middle))
    (ran : (readClause settings).run middle = (outcome, after)) :
    Supply.Passes .tokens before after := by
  have looked : Supply.Passes .tokens before middle := passes_of_upcoming asked
  have read := (readClause settings).orderly middle
  rw [ran] at read
  exact looked.trans read

/-- A round that goes on has read no clause, or it has read one and reported it then. -/
theorem clauseRound_cases
    (asked : (upcoming (clauseLoop settings).accepts : OnDemand .clauses Bool).run before =
      (.ok true, middle))
    (ran : ((clauseLoop settings).round clauses).run middle = (.ok (some next), after)) :
    (next = clauses ∧ Supply.Passes .tokens before after) ∨
      ∃ clause moment, next = clauses ++ [clause] ∧
        (readClause settings).run middle = (.ok (some clause), moment) ∧
        after = moment.report (.completed clause.tag clause.field?) := by
  have ran' : (clauseRound settings clauses).run middle = (.ok (some next), after) := ran
  rw [run_clauseRound] at ran'
  split at ran'
  · next clause moment read =>
      cases ran'
      exact .inr ⟨clause, moment, rfl, read, rfl⟩
  · next moment read =>
      cases ran'
      exact .inl ⟨rfl, passes_readClause asked read⟩
  · cases ran'

/-- The rounds have reported the clauses that they have read. -/
theorem loggedClauses_of_reaches
    (reached : (clauseLoop settings).Reaches [] (.start settings.tolerant query) clauses before) :
    loggedClauses before.log = clauses.map fun clause => (clause.tag, clause.field?) := by
  induction reached with
  | start => rfl
  | round reached asked ran induction =>
      rcases clauseRound_cases asked ran with ⟨rfl, passes⟩ | ⟨clause, moment, rfl, read, rfl⟩
      · rw [passes.loggedClauses_eq, induction]
      · rw [Supply.report, loggedClauses_append,
          (passes_readClause asked read).loggedClauses_eq, induction, List.map_append]
        rfl

/-- The rounds have reported each clause when it was complete. -/
theorem exists_completing_of_reaches {front behind : List Event} {tag : String}
    {field? : Option String}
    (reached : (clauseLoop settings).Reaches [] (.start settings.tolerant query) clauses before)
    (split : before.log = front ++ .completed tag field? :: behind) :
    ∃ earlier clause moment, Completing settings query earlier clause moment ∧
      clause.tag = tag ∧ clause.field? = field? ∧ moment.log = front := by
  induction reached generalizing behind with
  | start => simp [Supply.start] at split
  | round reached asked ran induction =>
      rcases clauseRound_cases asked ran with ⟨-, passes⟩ | ⟨clause, moment, -, read, rfl⟩
      · obtain ⟨between, split⟩ := passes.exists_completed split
        exact induction split
      · have whole : moment.log ++ [.completed clause.tag clause.field?] =
            front ++ .completed tag field? :: behind := split
        rcases List.eq_nil_or_concat behind with rfl | ⟨between, last, rfl⟩
        · obtain ⟨log, same⟩ := List.append_inj' whole rfl
          obtain ⟨sameTag, sameField⟩ := Event.completed.inj (List.cons.inj same).1
          exact ⟨_, clause, moment, ⟨_, _, reached, asked, read⟩, sameTag, sameField, log⟩
        · rw [List.concat_eq_append, ← List.cons_append, ← List.append_assoc] at whole
          have earlier := (List.append_inj' whole rfl).1
          obtain ⟨between, split⟩ := (passes_readClause asked read).exists_completed earlier
          exact induction split

/-- Where no token comes next all tokens have been made. -/
theorem unlexed_of_not_upcoming
    (asked : (upcoming (clauseLoop settings).accepts : OnDemand .clauses Bool).run before =
      (.ok false, after)) :
    after.unlexed = [] := by
  have same := (draws_of_upcoming asked).ahead
  rw [List.nil_append, after.tokens_ahead] at same
  rw [run_upcoming, Supply.peek_fst_eq_first] at asked
  have outcome := congrArg Prod.fst asked
  have empty : before.reader.ahead.tokens = [] := by
    generalize before.reader.ahead = stream at outcome
    obtain ⟨_ | _, _ | _⟩ := stream <;> first | rfl | cases outcome
  rw [empty] at same
  exact (List.append_eq_nil_iff.mp same.symm).2

/-- Reading clauses ends behind some rounds and reports nothing but tokens there.  If it does not
stop, then no token is left to be made. -/
theorem exists_reaches_clauseLoop (settings : Settings) (query : String) :
    ∃ clauses before,
      (clauseLoop settings).Reaches [] (.start settings.tolerant query) clauses before ∧
      Supply.Passes .tokens before
        (((clauseLoop settings).run []).run (.start settings.tolerant query)).2 ∧
      ∀ found,
        (((clauseLoop settings).run []).run (.start settings.tolerant query)).1 = .ok found →
        found = clauses ∧
          (((clauseLoop settings).run []).run (.start settings.tolerant query)).2.unlexed = [] := by
  obtain ⟨clauses, before, reached, stops⟩ :=
    (clauseLoop settings).exists_reaches_run [] (.start settings.tolerant query)
  refine ⟨clauses, before, reached, ?_⟩
  generalize ((clauseLoop settings).run []).run (.start settings.tolerant query) = ends at stops
  cases stops with
  | failed asked => exact ⟨passes_of_upcoming asked, nofun⟩
  | ended asked =>
      refine ⟨passes_of_upcoming asked, ?_⟩
      rintro _ ⟨⟩
      exact ⟨rfl, unlexed_of_not_upcoming asked⟩
  | @refused reason middle after asked ran =>
      have ran' : (clauseRound settings clauses).run middle = (.error reason, after) := ran
      rw [run_clauseRound] at ran'
      split at ran' <;> cases ran'
      exact ⟨passes_readClause asked ‹_›, nofun⟩
  | @broken middle after asked ran =>
      have ran' : (clauseRound settings clauses).run middle = (.ok none, after) := ran
      rw [run_clauseRound] at ran'
      split at ran' <;> cases ran'

end Rounds

section Completing

variable {clauses : List Clause} {clause : Clause} {moment : Supply}

/-- When a clause is complete, the clauses before have been reported. -/
theorem Completing.loggedClauses_eq (completing : Completing settings query clauses clause moment) :
    loggedClauses moment.log = clauses.map fun clause => (clause.tag, clause.field?) := by
  obtain ⟨before, middle, reached, asked, read⟩ := completing
  rw [(passes_readClause asked read).loggedClauses_eq, loggedClauses_of_reaches reached]

/-- When a clause is complete, the tokens given away and the one looked at have been reported. -/
theorem Completing.loggedTokens_eq (completing : Completing settings query clauses clause moment) :
    loggedTokens moment.log = moment.given ++ moment.reader.lookahead.toList := by
  obtain ⟨before, middle, reached, asked, read⟩ := completing
  have passes := reached.passes.trans ((passes_readClause asked read).widen .clauses)
  exact passes.loggedTokens_eq.1

/-- When a clause is complete, the tokens of the query are those given away and those ahead. -/
theorem Completing.drain_eq (completing : Completing settings query clauses clause moment) :
    ((TokenReader.ofText query).withTolerance settings.tolerant).drain.1 =
      moment.given ++ moment.reader.ahead.tokens := by
  obtain ⟨before, middle, reached, asked, read⟩ := completing
  obtain ⟨⟨taken, draws⟩, -⟩ :=
    reached.passes.trans ((passes_readClause asked read).widen .clauses)
  have given : moment.given = taken := draws.given
  rw [given, ← draws.ahead]
  exact (TokenReader.drain_withTolerance query settings.tolerant).1

end Completing

/-! ## The end -/

/-- The end is reported last. -/
theorem exists_log_conclude (source : List Char) (ends : Except Halt (List Clause) × Supply) :
    ∃ last, (conclude source ends).2.log = ends.2.log ++ [last] ∧ last.ends = true ∧
      match (conclude source ends).1 with
      | .ok clauses => ends.1 = .ok clauses ∧ last = .finished clauses.length
      | .error diagnostic => last = .rejected diagnostic.cause.code diagnostic.column := by
  obtain ⟨reason | clauses, after⟩ := ends
  · exact ⟨_, rfl, rfl, rfl⟩
  · exact ⟨_, rfl, rfl, rfl, rfl⟩

/-- Reading a query has come by rounds to some clauses, has reported nothing but tokens from then
on, and in the end its outcome. -/
structure Concluding (settings : Settings) (query : String) (clauses : List Clause)
    (before after : Supply) (last : Event) : Prop where
  reached : (clauseLoop settings).Reaches [] (.start settings.tolerant query) clauses before
  passes : Supply.Passes .tokens before after
  log : Query.log settings query = after.log ++ [last]
  isEnd : last.ends = true
  outcome :
    match Query.parse settings query with
    | .ok found => found = clauses ∧ after.unlexed = [] ∧ last = .finished clauses.length
    | .error diagnostic => last = .rejected diagnostic.cause.code diagnostic.column

theorem exists_concluding (settings : Settings) (query : String) :
    ∃ clauses before after last, Concluding settings query clauses before after last := by
  obtain ⟨clauses, before, reached, passes, finishes⟩ := exists_reaches_clauseLoop settings query
  obtain ⟨last, log, isEnd, result⟩ := exists_log_conclude query.toList
    (((clauseLoop settings).run []).run (.start settings.tolerant query))
  refine ⟨clauses, before, _, last, reached, passes, log, isEnd, ?_⟩
  rw [← parse_eq, parse]
  generalize (conclude query.toList
    (((clauseLoop settings).run []).run (.start settings.tolerant query))).1 = outcome at result
  cases outcome with
  | error diagnostic => exact result
  | ok found =>
      obtain ⟨found_eq, isLast⟩ := result
      obtain ⟨rfl, nothing⟩ := finishes found found_eq
      exact ⟨rfl, nothing, isLast⟩

section Concluding

variable {clauses : List Clause} {before after : Supply} {last : Event}

/-- Until the end tokens and clauses have been reported. -/
theorem Concluding.whole (concluding : Concluding settings query clauses before after last) :
    Supply.Passes .clauses (.start settings.tolerant query) after :=
  concluding.reached.passes.trans (concluding.passes.widen .clauses)

/-- The end has not been reported before. -/
theorem Concluding.ends_eq_false
    (concluding : Concluding settings query clauses before after last) :
    ∀ event ∈ after.log, event.ends = false := by
  obtain ⟨-, events, reports⟩ := concluding.whole
  have log : after.log = events := reports.log
  rw [log]
  exact fun event member => Scope.ends_of_admits (reports.admitted event member)

/-- The tokens reported and those that have not been made are the tokens of the query. -/
theorem Concluding.drain_eq (concluding : Concluding settings query clauses before after last) :
    ((TokenReader.ofText query).withTolerance settings.tolerant).drain.1 =
      loggedTokens after.log ++ after.unlexed :=
  (TokenReader.drain_withTolerance query settings.tolerant).1.trans
    concluding.whole.loggedTokens_eq.2

theorem Concluding.loggedClauses_eq
    (concluding : Concluding settings query clauses before after last) :
    loggedClauses after.log = clauses.map fun clause => (clause.tag, clause.field?) := by
  rw [concluding.passes.loggedClauses_eq, loggedClauses_of_reaches concluding.reached]

/-- A report of a clause goes back to the moment when the clause was complete. -/
theorem Concluding.exists_completing {front behind : List Event} {tag : String}
    {field? : Option String} (concluding : Concluding settings query clauses before after last)
    (split : Query.log settings query = front ++ .completed tag field? :: behind) :
    ∃ earlier clause moment, Completing settings query earlier clause moment ∧
      clause.tag = tag ∧ clause.field? = field? ∧ moment.log = front := by
  have absent : Event.completed tag field? ∉ [last] := by
    intro member
    have isEnd := concluding.isEnd
    rw [← List.mem_singleton.mp member] at isEnd
    cases isEnd
  rw [concluding.log] at split
  obtain ⟨between, split⟩ := exists_of_append_eq absent split
  obtain ⟨between, split⟩ := concluding.passes.exists_completed split
  exact exists_completing_of_reaches concluding.reached split

end Concluding
end OnDemand

namespace Query

/-- The log of a query reports tokens in the order of the query, each once, and clauses, and closes
with the end of the reading.  Of a query that is read it reports all tokens and its clauses.  When a
clause is reported, the tokens reported are those given away and the one looked at, if there is
one; the other tokens of the query are still ahead. -/
theorem log_faithful (settings : Settings) (query : String) :
    let stream := ((TokenReader.ofText query).withTolerance settings.tolerant).drain.1
    (∃ body last, log settings query = body ++ [last] ∧ (∀ event ∈ body, event.ends = false) ∧
      loggedTokens body <+: stream ∧
      match parse settings query with
      | .ok clauses =>
          loggedTokens body = stream ∧
            loggedClauses body = (clauses.map fun clause => (clause.tag, clause.field?)) ∧
            last = .finished clauses.length
      | .error diagnostic => last = .rejected diagnostic.cause.code diagnostic.column) ∧
    ∀ before tag field? after, log settings query = before ++ .completed tag field? :: after →
      ∃ clauses clause moment, OnDemand.Completing settings query clauses clause moment ∧
        moment.log = before ∧ clause.tag = tag ∧ clause.field? = field? ∧
        loggedClauses before = (clauses.map fun clause => (clause.tag, clause.field?)) ∧
        loggedTokens before = moment.given ++ moment.reader.lookahead.toList ∧
        stream = moment.given ++ moment.reader.ahead.tokens := by
  intro stream
  obtain ⟨clauses, before, after, last, concluding⟩ := OnDemand.exists_concluding settings query
  have made : stream = loggedTokens after.log ++ after.unlexed := concluding.drain_eq
  constructor
  · refine ⟨after.log, last, concluding.log, concluding.ends_eq_false, ⟨_, made.symm⟩, ?_⟩
    have outcome := concluding.outcome
    split at outcome
    · obtain ⟨rfl, nothing, isLast⟩ := outcome
      rw [nothing, List.append_nil] at made
      exact ⟨made.symm, concluding.loggedClauses_eq, isLast⟩
    · exact outcome
  · intro front tag field? behind split
    obtain ⟨earlier, clause, moment, completing, sameTag, sameField, rfl⟩ :=
      concluding.exists_completing split
    exact ⟨earlier, clause, moment, completing, rfl, sameTag, sameField,
      completing.loggedClauses_eq, completing.loggedTokens_eq, completing.drain_eq⟩

/-- When the list is complete the pipe behind it has been made, since there could have been
another value; behind the pipe nothing has been made. -/
theorem log_faithful_refused :
    let settings := Settings.ofFields ["tags"]
    let query := "tags in a | x = y"
    let before := [.lexed { kind := .ident, value := "tags", pos := 0 },
      .lexed { kind := .ident, value := "in", pos := 5 },
      .lexed { kind := .ident, value := "a", pos := 8 },
      .lexed { kind := .pipe, value := "|", pos := 10 }]
    let after := [.lexed { kind := .ident, value := "x", pos := 12 },
      .rejected "InvalidField" 12]
    log settings query = before ++ .completed "in" (some "tags") :: after ∧
      ∃ clauses clause moment, OnDemand.Completing settings query clauses clause moment ∧
        moment.log = before ∧ clause.tag = "in" ∧ clause.field? = some "tags" ∧
        loggedClauses before = (clauses.map fun clause => (clause.tag, clause.field?)) ∧
        loggedTokens before = moment.given ++ moment.reader.lookahead.toList ∧
        ((TokenReader.ofText query).withTolerance settings.tolerant).drain.1 =
          moment.given ++ moment.reader.ahead.tokens := by
  intro settings query before after
  have logged : log settings query = before ++ .completed "in" (some "tags") :: after := by
    decide +kernel
  exact ⟨logged, (log_faithful settings query).2 before _ _ after logged⟩

end Query
end PipeQuery

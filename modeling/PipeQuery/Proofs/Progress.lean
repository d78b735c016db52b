import PipeQuery.Proofs.Demand.Course
import PipeQuery.Proofs.Token.Cut

/-!
# Progress

Reading a query on demand always goes on.  A clause takes a token if one is left, each round of a
loop takes one, and a token costs a character.  Hence reading ends, for whatever reason, and the
tokens given away until then stand in front of those of the query, each at most once
(`OnDemand.parse_progress`).
-/

namespace PipeQuery

/-- Whether the reading is tolerant or not, tokens stand in increasing order: an unclosed text
stands where the text would stand if it were closed at once. -/
theorem TokenStream.pairwise_read (tolerant : Bool) (text : List Char) :
    (read tolerant text).tokens.Pairwise (·.pos < ·.pos) := by
  by_cases unclosed : (read false text).fault = some .unclosedString
  · cases tolerant with
    | false => exact pairwise_readFrom 0 text
    | true =>
        obtain ⟨front, body, split, -, isOpen, again⟩ := exists_of_unclosed unclosed
        have last := Text.Quoted.rest_eq_nil_of_not_closed false body isOpen
        have closed : (readFrom false 0 (front ++ [Text.Quoted.quote, Text.Quoted.quote])).tokens =
            (read false text).tokens ++ [quotedToken front.length [Text.Quoted.quote]] :=
          congrArg tokens (again false [Text.Quoted.quote] rfl rfl)
        have increasing := pairwise_readFrom 0 (front ++ [Text.Quoted.quote, Text.Quoted.quote])
        rw [closed] at increasing
        rw [split, again true body (Bool.or_true _) last]
        rw [List.pairwise_append] at increasing ⊢
        refine ⟨increasing.1, List.pairwise_singleton _ _, fun earlier member later isLast => ?_⟩
        have below := increasing.2.2 earlier member _ List.mem_cons_self
        rw [List.mem_singleton.mp isLast]
        exact below
  · rw [read_tolerant (.inr unclosed)]
    exact pairwise_readFrom 0 text

namespace OnDemand

/-- A round that starts, because a token of an accepted kind comes next, and does not stop has taken
a token. -/
def Loop.Progresses {scope : Query.Scope} {σ : Type} (loop : Loop scope σ) : Prop :=
  ∀ state supply middle next? after,
    (upcoming loop.accepts : OnDemand scope Bool).run supply = (.ok true, middle) →
    (loop.round state).run middle = (.ok next?, after) →
    ∃ token taken, supply.Draws (token :: taken) after

theorem Loop.progresses {scope : Query.Scope} {σ : Type} (loop : Loop scope σ) :
    loop.Progresses := by
  intro state supply middle next? after asked ran
  obtain ⟨token, taken, draws⟩ :=
    loop.advances state middle next? after (continues_of_upcoming asked) ran
  exact ⟨token, taken, (draws_of_upcoming asked).trans draws⟩

/-- A clause stops at a fault, since it asks what comes next before all else. -/
theorem run_readClause_of_fault (settings : Settings) {supply : Supply} {fault : LexicalFault}
    (failed : supply.reader.atEnd.1 = .error fault) :
    ((readClause settings).run supply).1 = .error (.lexical fault) := by
  have met : supply.peek.1 = .error fault := by
    have looked : supply.reader.atEnd.1 = supply.peek.1.map Option.isNone := by
      rw [supply.peek_fst]
      rfl
    rw [looked] at failed
    cases found : supply.peek.1 with
    | ok token? => rw [found] at failed; cases failed
    | error fault' => rw [found] at failed; cases failed; rfl
  have asked : (upcoming (skipLoop .pipe).accepts : OnDemand .tokens Bool).run supply =
      (.error (.lexical fault), supply.peek.2) := by
    rw [run_upcoming, met]
    rfl
  rw [readClause, run_bind_of_error]
  rw [skip, Loop.run_eq, run_bind_of_error asked]

/-- A clause that is read takes a token unless none was left. -/
theorem exists_draws_readClause {settings : Settings} {supply after : Supply}
    {clause? : Option Clause} (notAtEnd : supply.reader.atEnd.1 ≠ .ok true)
    (ran : (readClause settings).run supply = (.ok clause?, after)) :
    ∃ token taken, supply.Draws (token :: taken) after := by
  cases asked : supply.reader.atEnd.1 with
  | error fault =>
      have stopped := run_readClause_of_fault settings asked
      rw [ran] at stopped
      cases stopped
  | ok atEnd =>
      cases atEnd with
      | true => exact absurd asked notAtEnd
      | false => exact advances_readClause settings supply clause? after asked ran

/-- The tokens given away are the first ones of the query. -/
theorem exists_draws_parse (settings : Settings) (query : String) :
    Supply.Draws (.start settings.tolerant query) (parse settings query).2.given
      (parse settings query).2 := by
  obtain ⟨taken, drawn⟩ :=
    (((clauseLoop settings).run []).orderly (.start settings.tolerant query)).draws
  have draws := draws_conclude drawn query.toList
  have given : (parse settings query).2.given = taken := draws.given
  rw [given]
  exact draws

/-- Reading a query takes a token for each clause and in each round of a loop, and a character for
each token.  It ends with the clauses or a diagnostic, having given away tokens from the front of
the query, no token twice. -/
theorem parse_progress (settings : Settings) :
    (∀ supply clause? after, supply.reader.atEnd.1 ≠ .ok true →
        (readClause settings).run supply = (.ok clause?, after) →
        ∃ token taken, Supply.Draws supply (token :: taken) after) ∧
      ((clauseLoop settings).Progresses ∧ (∀ kind, (skipLoop kind).Progresses) ∧
        valueLoop.Progresses ∧ (∀ field, (chainLoop field).Progresses) ∧
        entryLoop.Progresses ∧ constraintLoop.Progresses) ∧
      (∀ (reader : TokenReader) (token : Token), reader.scan.1 = .ok (some token) →
        reader.scan.2.cursor.remaining.length < reader.cursor.remaining.length) ∧
      ∀ query, (parse settings query).1 = Query.parse settings query ∧
        (parse settings query).2.given <+: (Query.tokens settings query).tokens ∧
        (parse settings query).2.given.Pairwise (·.pos < ·.pos) ∧
        (parse settings query).2.given.length ≤ query.toList.length := by
  refine ⟨fun _ _ _ notAtEnd ran => exists_draws_readClause notAtEnd ran,
    ⟨(clauseLoop settings).progresses, fun kind => (skipLoop kind).progresses,
      valueLoop.progresses, fun field => (chainLoop field).progresses, entryLoop.progresses,
      constraintLoop.progresses⟩,
    fun _ _ made => TokenReader.length_remaining_scan_lt made, fun query => ?_⟩
  have draws := exists_draws_parse settings query
  have front : (parse settings query).2.given <+: (Query.tokens settings query).tokens :=
    ⟨_, draws.ahead.symm⟩
  refine ⟨parse_eq settings query, front, ?_, ?_⟩
  · exact (TokenStream.pairwise_read settings.tolerant query.toList).sublist front.sublist
  · have spent := draws.pending
    have whole : (Supply.start settings.tolerant query).reader.pending = query.toList.length := rfl
    omega

end OnDemand
end PipeQuery

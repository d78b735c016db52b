import PipeQuery.Demand.Readers

/-!
# Reading on demand and from lists

A parser on demand reads what is read from the list of the tokens ahead: it returns the same, leaves
the same tokens, the first of them looked at or not, and stops for the same cause at the same place
(`OnDemand.agrees_readClause`).  The proofs follow the parsers from call to call: a token that is
asked for is the first of the list, and behind the last one stands the fault or the end.
-/

namespace PipeQuery

/-! ## Behind the last token -/

namespace TokenReader

section Within

variable {reader : TokenReader}

theorem within_scan (within : reader.cursor.position ≤ reader.cursor.length) :
    reader.scan.2.cursor.length = reader.cursor.length ∧
      reader.scan.2.cursor.position ≤ reader.scan.2.cursor.length := by
  have counted := position_scan within
  have kept : reader.scan.2.cursor.length = reader.cursor.length := rfl
  exact ⟨kept, by omega⟩

/-- Taking keeps the cursor within its text. -/
theorem within_next (within : reader.cursor.position ≤ reader.cursor.length) :
    reader.next.2.cursor.length = reader.cursor.length ∧
      reader.next.2.cursor.position ≤ reader.next.2.cursor.length := by
  unfold next
  split
  · exact ⟨rfl, within⟩
  · exact within_scan within

/-- Looking keeps the cursor within its text. -/
theorem within_peek (within : reader.cursor.position ≤ reader.cursor.length) :
    reader.peek.2.cursor.length = reader.cursor.length ∧
      reader.peek.2.cursor.position ≤ reader.peek.2.cursor.length := by
  have kept := within_scan within
  unfold peek
  split
  · exact ⟨rfl, within⟩
  · split
    · next scanned => rw [scanned] at kept; exact kept
    · next scanned => rw [scanned] at kept; exact kept

end Within

theorem lookahead_of_empty {reader : TokenReader} (empty : reader.ahead.tokens = []) :
    reader.lookahead = none := by
  cases waiting : reader.lookahead with
  | none => rfl
  | some token => rw [ahead_of_waiting waiting] at empty; cases empty

/-- Behind the last token looking and taking are the same. -/
theorem peek_eq_next {reader : TokenReader} (empty : reader.ahead.tokens = []) :
    reader.peek = reader.next := by
  have nothing := lookahead_of_empty empty
  obtain ⟨found, -⟩ := scan_stream reader
  have still : reader.scan.2.lookahead = none := nothing
  rw [ahead_of_empty nothing] at empty
  rw [peek, next, nothing]
  simp only
  split
  · next token? after scanned =>
      rw [scanned] at found still
      have none : token? = none := by
        rw [← TokenStream.head?_of_first found.symm, empty]
        rfl
      rw [scanned, none, ← still]
  · next scanned => exact scanned.symm

end TokenReader

namespace Query

/-! ## Agreement -/

/-- The tokens of a list are ahead in a supply, the first of them looked at or not, and the ending
of the list behind them. -/
structure Stands (supply : Supply) (ending : Ending) (lookedAhead : Bool) (tokens : List Token) :
    Prop where
  ahead : supply.reader.ahead = { tokens, fault := ending.fault }
  lookahead : supply.reader.lookahead = if lookedAhead then tokens.head? else none
  length : supply.reader.cursor.length = ending.length
  within : supply.reader.cursor.position ≤ supply.reader.cursor.length

namespace Stands

variable {supply : Supply} {ending : Ending} {lookedAhead : Bool} {tokens : List Token}

/-- What has not been made is what has not been looked at. -/
theorem unlexed (stands : Stands supply ending lookedAhead tokens) :
    supply.unlexed = if lookedAhead then tokens.tail else tokens := by
  have whole : supply.reader.ahead.tokens = tokens := by rw [stands.ahead]
  have slot := stands.lookahead
  unfold Supply.unlexed
  cases waiting : supply.reader.lookahead with
  | some token =>
      rw [TokenReader.ahead_of_waiting waiting] at whole
      rw [waiting] at slot
      cases lookedAhead with
      | false => cases slot
      | true => rw [← whole]; rfl
  | none =>
      rw [TokenReader.ahead_of_empty waiting] at whole
      rw [waiting] at slot
      cases lookedAhead with
      | false => exact whole
      | true =>
          rw [whole, List.head?_eq_none_iff.mp slot.symm]
          rfl

end Stands

/-- The supply has found the end of the query. -/
structure Ended (supply : Supply) (ending : Ending) : Prop where
  stands : Stands supply ending true []
  complete : ending.fault = none
  column : supply.column = ending.length

/-- What has been read on demand is what has been read from a list, and the tokens made are those
that the list readers say. -/
inductive Agrees {α : Type} (ending : Ending) :
    Except Halt α × Supply → Except Failure (Reading α) → Prop where
  | ok {supply : Supply} (reading : Reading α)
      (stands : Stands supply ending reading.lookedAhead reading.rest) :
      Agrees ending (.ok reading.value, supply) (.ok reading)
  | error {supply : Supply} {reason : Halt} {failure : Failure}
      (cause : reason.cause = failure.cause)
      (column : reason.column?.getD supply.column = failure.column)
      (unlexed : supply.unlexed = failure.unlexed) :
      Agrees ending (.error reason, supply) (.error failure)

end Query

namespace OnDemand

open Query

variable {scope : Scope} {α β : Type} {supply : Supply} {ending : Ending} {lookedAhead : Bool}
  {token : Token} {rest : List Token}

/-- Taking gives the first token. -/
theorem next_cons (stands : Stands supply ending lookedAhead (token :: rest)) :
    supply.next.1 = .ok (some token) ∧ Stands supply.next.2 ending false rest := by
  obtain ⟨found, left, nothing, -⟩ := TokenReader.next_ahead supply.reader
  obtain ⟨length, within⟩ := TokenReader.within_next stands.within
  rw [stands.ahead] at found left
  rw [Supply.next_eq]
  exact ⟨found, left, nothing, length.trans stands.length, within⟩

/-- Looking finds the first token, which keeps its place. -/
theorem peek_cons (stands : Stands supply ending lookedAhead (token :: rest)) :
    supply.peek.1 = .ok (some token) ∧ Stands supply.peek.2 ending true (token :: rest) ∧
      supply.peek.2.column = token.pos := by
  obtain ⟨found, left, waiting, -⟩ := TokenReader.peek_ahead supply.reader
  obtain ⟨length, within⟩ := TokenReader.within_peek stands.within
  rw [stands.ahead] at found left waiting
  rw [Supply.peek_eq]
  refine ⟨found, ⟨left, waiting, length.trans stands.length, within⟩, ?_⟩
  simp only [Supply.column, waiting, List.head?_cons]

/-- Taking behind the last token finds the end or meets the fault. -/
theorem next_nil (stands : Stands supply ending lookedAhead []) :
    supply.next.1 = .ok none ∧ Ended supply.next.2 ending ∨
      ∃ fault, ending.fault = some fault ∧ supply.next.1 = .error fault ∧
        fault.column?.getD supply.next.2.column = fault.column ending.length ∧
        supply.next.2.unlexed = [] := by
  obtain ⟨found, left, nothing, -⟩ := TokenReader.next_ahead supply.reader
  obtain ⟨length, within⟩ := TokenReader.within_next stands.within
  have empty : supply.reader.lookahead = none :=
    TokenReader.lookahead_of_empty (by rw [stands.ahead])
  have scanned : supply.reader.next = supply.reader.scan := by rw [TokenReader.next, empty]
  have column : supply.next.2.column = supply.reader.next.2.cursor.position := by
    simp only [Supply.column, Supply.next_eq, nothing]
  rw [stands.ahead] at found left
  cases fault? : ending.fault with
  | none =>
      left
      rw [fault?] at found left
      refine ⟨supply.next_fst.trans found, ⟨?_, ?_, ?_, ?_⟩, fault?, ?_⟩
      · rw [Supply.reader_next, fault?]
        exact left
      · rw [Supply.reader_next]
        exact nothing
      · rw [Supply.reader_next]
        exact length.trans stands.length
      · rw [Supply.reader_next]
        exact within
      · rw [scanned] at found
        rw [column, scanned, TokenReader.position_scan_of_end stands.within found, stands.length]
  | some fault =>
      right
      rw [fault?] at found left
      refine ⟨fault, rfl, supply.next_fst.trans found, ?_, ?_⟩
      · cases fault with
        | unlexable character offset => rfl
        | unclosedString =>
            rw [scanned] at found
            rw [LexicalFault.column_unclosedString, ← stands.length,
              ← TokenReader.position_scan_of_unclosed stands.within found, ← scanned]
            exact column
      · rw [Supply.unlexed, Supply.reader_next, ← TokenReader.ahead_of_empty nothing, left]
        cases fault <;> rfl

/-- Looking behind the last token finds the end or meets the fault, as taking does. -/
theorem peek_nil (stands : Stands supply ending lookedAhead []) : supply.peek = supply.next := by
  have empty : supply.reader.ahead.tokens = [] := by rw [stands.ahead]
  have same := TokenReader.peek_eq_next empty
  have nothing := (TokenReader.next_ahead supply.reader).1
  rw [stands.ahead] at nothing
  rw [Supply.peek_eq, Supply.next_eq, same, nothing]
  cases ending.fault <;> simp [TokenStream.first, Supply.brought]

/-! ## From call to call -/

theorem settle_of_ended (ended : Ended supply ending) : ending.settle = .ok () := by
  rw [Ending.settle, ended.complete]

theorem refuse_of_settle {failure : Failure} (settled : ending.settle = .error failure)
    (cause : Cause) : ending.refuse cause = failure := by
  unfold Ending.settle at settled
  unfold Ending.refuse
  split at settled <;> cases settled
  rfl

theorem agrees_done (stands : Stands supply ending lookedAhead rest) (value : α) :
    Agrees ending ((pure value : OnDemand scope α).run supply) (.ok { value, lookedAhead, rest }) :=
  .ok { value, lookedAhead, rest } stands

theorem agrees_refuse (ended : Ended supply ending) (cause : Cause) :
    Agrees ending ((halt (.near none cause) : OnDemand scope α).run supply)
      (.error (ending.refuse cause)) := by
  rw [Ending.refuse, ended.complete]
  exact .error rfl ended.column ended.stands.unlexed

theorem agrees_blame {tokens : List Token} (stands : Stands supply ending lookedAhead tokens)
    (token : Token) (cause : Cause) :
    Agrees ending ((halt (.near (some token) cause) : OnDemand scope α).run supply)
      (.error (.blame token cause (if lookedAhead then tokens.tail else tokens))) :=
  .error rfl rfl stands.unlexed

/-- The token looked at is to blame. -/
theorem agrees_blame_next (stands : Stands supply ending true (token :: rest))
    (column : supply.column = token.pos) (cause : Cause) :
    Agrees ending ((halt (.near none cause) : OnDemand scope α).run supply)
      (.error (.blame token cause rest)) :=
  .error rfl column stands.unlexed

section Calls

variable {outcome : Except Failure (Reading β)}

theorem agrees_next_cons {later : Option Token → OnDemand scope β}
    (stands : Stands supply ending lookedAhead (token :: rest))
    (goes : ∀ after, Stands after ending false rest →
      Agrees ending ((later (some token)).run after) outcome) :
    Agrees ending ((next >>= later).run supply) outcome := by
  obtain ⟨found, stands'⟩ := next_cons stands
  rw [run_bind_of_ok (run_next_of_ok found)]
  exact goes _ stands'

theorem agrees_next_nil {later : Option Token → OnDemand scope β}
    (stands : Stands supply ending lookedAhead [])
    (met : ∀ failure, ending.settle = .error failure → outcome = .error failure)
    (ended : ∀ after, Ended after ending → Agrees ending ((later none).run after) outcome) :
    Agrees ending ((next >>= later).run supply) outcome := by
  rcases next_nil stands with ⟨found, atEnd⟩ | ⟨fault, failed, found, column, unlexed⟩
  · rw [run_bind_of_ok (run_next_of_ok found)]
    exact ended _ atEnd
  · rw [run_bind_of_error (run_next_of_error found), met _ (by rw [Ending.settle, failed])]
    exact .error rfl column unlexed

/-- A token is wanted, and there is none. -/
theorem agrees_next_refuse {later : Option Token → OnDemand scope β} {cause : Cause}
    (stands : Stands supply ending lookedAhead []) (stops : later none = halt (.near none cause)) :
    Agrees ending ((next >>= later).run supply) (.error (ending.refuse cause)) := by
  refine agrees_next_nil stands (fun _ met => ?_) fun _ ended => ?_
  · rw [refuse_of_settle met]
  · rw [stops]
    exact agrees_refuse ended cause

theorem agrees_peek_cons {later : Option Token → OnDemand scope β}
    (stands : Stands supply ending lookedAhead (token :: rest))
    (goes : ∀ after, Stands after ending true (token :: rest) → after.column = token.pos →
      Agrees ending ((later (some token)).run after) outcome) :
    Agrees ending ((peek >>= later).run supply) outcome := by
  obtain ⟨found, stands', column⟩ := peek_cons stands
  rw [run_bind_of_ok (run_peek_of_ok found)]
  exact goes _ stands' column

theorem agrees_peek_nil {later : Option Token → OnDemand scope β}
    (stands : Stands supply ending lookedAhead [])
    (met : ∀ failure, ending.settle = .error failure → outcome = .error failure)
    (ended : ∀ after, Ended after ending → Agrees ending ((later none).run after) outcome) :
    Agrees ending ((peek >>= later).run supply) outcome := by
  have same : (peek : OnDemand scope (Option Token)).run supply =
      (next : OnDemand scope (Option Token)).run supply := by
    simp only [peek, next, peek_nil stands]
  rw [run_bind, same, ← run_bind]
  exact agrees_next_nil stands met ended

theorem agrees_upcoming_cons {accepts : TokenKind → Bool} {later : Bool → OnDemand scope β}
    (stands : Stands supply ending lookedAhead (token :: rest))
    (goes : ∀ after, Stands after ending true (token :: rest) → after.column = token.pos →
      Agrees ending ((later (accepts token.kind)).run after) outcome) :
    Agrees ending ((upcoming accepts >>= later).run supply) outcome := by
  rw [upcoming, bind_assoc]
  exact agrees_peek_cons stands goes

theorem agrees_upcoming_nil {accepts : TokenKind → Bool} {later : Bool → OnDemand scope β}
    (stands : Stands supply ending lookedAhead [])
    (met : ∀ failure, ending.settle = .error failure → outcome = .error failure)
    (ended : ∀ after, Ended after ending → Agrees ending ((later false).run after) outcome) :
    Agrees ending ((upcoming accepts >>= later).run supply) outcome := by
  rw [upcoming, bind_assoc]
  exact agrees_peek_nil stands met ended

/-- What follows a parser reads on where its reading ends. -/
theorem agrees_andThen {parser : OnDemand scope α} {later : α → OnDemand scope β}
    {first : Except Failure (Reading α)} (agrees : Agrees ending (parser.run supply) first)
    (fails : ∀ failure, first = .error failure → outcome = .error failure)
    (goes : ∀ after reading, first = .ok reading →
      Stands after ending reading.lookedAhead reading.rest →
      Agrees ending ((later reading.value).run after) outcome) :
    Agrees ending ((parser >>= later).run supply) outcome := by
  rw [run_bind]
  generalize ran : parser.run supply = ends at agrees
  cases agrees with
  | @ok after reading stands => exact goes after reading rfl stands
  | error cause column unlexed =>
      rw [fails _ rfl]
      exact .error cause column unlexed

theorem agrees_andThen_of_ok {parser : OnDemand scope α} {later : α → OnDemand scope β}
    {reading : Reading α} (agrees : Agrees ending (parser.run supply) (.ok reading))
    (goes : ∀ after, Stands after ending reading.lookedAhead reading.rest →
      Agrees ending ((later reading.value).run after) outcome) :
    Agrees ending ((parser >>= later).run supply) outcome := by
  refine agrees_andThen agrees (fun _ failed => nomatch failed) fun after reading' read stands => ?_
  cases read
  exact goes after stands

theorem agrees_andThen_of_error {parser : OnDemand scope α} {later : α → OnDemand scope β}
    {failure : Failure} (agrees : Agrees ending (parser.run supply) (.error failure)) :
    Agrees ending ((parser >>= later).run supply) (.error failure) :=
  agrees_andThen agrees (fun _ failed => by cases failed; rfl) fun _ _ read => nomatch read

/-- Changing the meaning of what is read changes it alike. -/
theorem agrees_map {parser : OnDemand scope α} {first : Except Failure (Reading α)}
    (agrees : Agrees ending (parser.run supply) first) (f : α → β) :
    Agrees ending ((do let value ← parser; return f value : OnDemand scope β).run supply)
      (first.map (Reading.map f)) := by
  refine agrees_andThen agrees (fun failure failed => by rw [failed]; rfl)
    fun _ reading read stands => ?_
  rw [read]
  exact .ok (reading.map f) stands

end Calls

/-! ## Loops -/

section Loops

variable {σ : Type} {loop : Loop scope σ} {state : σ} {later : σ → OnDemand scope β}
  {outcome : Except Failure (Reading β)}

theorem agrees_loop_stop (stands : Stands supply ending lookedAhead (token :: rest))
    (stops : loop.accepts token.kind = false)
    (goes : ∀ after, Stands after ending true (token :: rest) → after.column = token.pos →
      Agrees ending ((later state).run after) outcome) :
    Agrees ending ((loop.run state >>= later).run supply) outcome := by
  rw [loop.run_eq, bind_assoc]
  refine agrees_upcoming_cons stands ?_
  simp only [stops, Bool.false_eq_true, if_false, pure_bind]
  exact goes

theorem agrees_loop_nil (stands : Stands supply ending lookedAhead [])
    (met : ∀ failure, ending.settle = .error failure → outcome = .error failure)
    (ended : ∀ after, Ended after ending → Agrees ending ((later state).run after) outcome) :
    Agrees ending ((loop.run state >>= later).run supply) outcome := by
  rw [loop.run_eq, bind_assoc]
  refine agrees_upcoming_nil stands met ?_
  simp only [Bool.false_eq_true, if_false, pure_bind]
  exact ended

/-- What follows a round: the loop goes on, or is broken off. -/
def afterRound (loop : Loop scope σ) (state : σ) : Option σ → OnDemand scope σ
  | some state => loop.run state
  | none => pure state

theorem agrees_loop_round (stands : Stands supply ending lookedAhead (token :: rest))
    (accepted : loop.accepts token.kind = true)
    (goes : ∀ after, Stands after ending true (token :: rest) →
      Agrees ending ((loop.round state >>= (afterRound loop state · >>= later)).run after)
        outcome) :
    Agrees ending ((loop.run state >>= later).run supply) outcome := by
  rw [loop.run_eq, bind_assoc]
  refine agrees_upcoming_cons stands fun after stands' _ => ?_
  simp only [accepted, if_true, bind_assoc]
  exact goes after stands'

end Loops

section Skip

variable {kind : TokenKind} {later : Unit → OnDemand .tokens β}
  {outcome : Except Failure (Reading β)}

theorem agrees_skip_stop (stands : Stands supply ending lookedAhead (token :: rest))
    (other : token.kind ≠ kind)
    (goes : ∀ after, Stands after ending true (token :: rest) →
      Agrees ending ((later ()).run after) outcome) :
    Agrees ending ((skip kind >>= later).run supply) outcome :=
  agrees_loop_stop stands (by simpa [skipLoop] using other) fun after stands' _ =>
    goes after stands'

theorem agrees_skip_nil (stands : Stands supply ending lookedAhead [])
    (met : ∀ failure, ending.settle = .error failure → outcome = .error failure)
    (ended : ∀ after, Ended after ending → Agrees ending ((later ()).run after) outcome) :
    Agrees ending ((skip kind >>= later).run supply) outcome :=
  agrees_loop_nil stands met ended

theorem agrees_skip_cons (stands : Stands supply ending lookedAhead (token :: rest))
    (same : token.kind = kind)
    (goes : ∀ after, Stands after ending false rest →
      Agrees ending ((skip kind >>= later).run after) outcome) :
    Agrees ending ((skip kind >>= later).run supply) outcome := by
  refine agrees_loop_round stands (by simpa [skipLoop] using same) fun after stands' => ?_
  simp only [skipLoop, skipRound, bind_assoc, pure_bind, afterRound]
  exact agrees_next_cons stands' goes

end Skip

/-! ## Readers -/

theorem agrees_readClosing {tokens : List Token} (stands : Stands supply ending lookedAhead tokens)
    (required : Bool) :
    Agrees ending ((readClosing required).run supply)
      (Query.readClosing ending required tokens) := by
  unfold readClosing Query.readClosing
  cases tokens with
  | nil =>
      cases required with
      | true =>
          refine agrees_upcoming_nil stands (fun _ met => ?_) fun after ended => ?_
          · exact congrArg _ (refuse_of_settle met _)
          · exact agrees_refuse ended _
      | false =>
          refine agrees_upcoming_nil stands (fun _ met => ?_) fun after ended => ?_
          · rw [met]
            rfl
          · rw [settle_of_ended ended]
            exact agrees_done ended.stands _
  | cons token rest =>
      refine agrees_upcoming_cons stands fun after stands' column => ?_
      by_cases closes : token.kind = .closeParen
      · simp only [closes, beq_self_eq_true, if_true]
        exact agrees_next_cons stands' fun _ stands'' => agrees_done stands'' _
      · simp only [beq_eq_false_iff_ne.mpr closes, if_neg closes]
        cases required with
        | true => exact agrees_blame_next stands' column _
        | false => exact agrees_done stands' _

theorem agrees_readOperand {tokens : List Token} (stands : Stands supply ending lookedAhead tokens)
    (clause : String → Clause) :
    Agrees ending ((readOperand clause).run supply)
      (Query.readOperand ending clause tokens) := by
  unfold readOperand Query.readOperand
  cases tokens with
  | nil =>
      refine agrees_next_nil stands (fun _ met => by rw [met]; rfl) fun after ended => ?_
      rw [settle_of_ended ended]
      exact agrees_done ended.stands _
  | cons token rest => exact agrees_next_cons stands fun _ stands' => agrees_done stands' _

theorem agrees_readText {tokens : List Token} (stands : Stands supply ending lookedAhead tokens)
    (field : String) (comparison : Keyword.Comparison) :
    Agrees ending ((readText field comparison).run supply)
      (Query.readText ending field comparison tokens) := by
  unfold readText Query.readText
  cases tokens with
  | nil => exact agrees_next_refuse stands rfl
  | cons token rest =>
      refine agrees_next_cons stands fun after stands' => ?_
      by_cases isText : token.isText = true
      · simp only [isText, if_true]
        cases comparison <;> exact agrees_done stands' _
      · simp only [isText]
        exact agrees_blame stands' token _

/-- What is read of a list of values, its first token standing right after a comma or not. -/
def valuesFrom : Bool → List String × Bool → OnDemand .tokens (List String × Bool)
  | false, list => valueLoop.run list
  | true, list => do
      skip .comma
      let token? ← next
      valueLoop.run (token?.elim list (addValue list))

/-- Behind a comma the next token belongs to the list, whatever it is. -/
theorem read_behind_comma (notComma : token.kind ≠ .comma) (rest : List Token)
    (list : List String × Bool) :
    (ValueList.read true (token :: rest)).rest = (ValueList.read false rest).rest ∧
      (list.1 ++ (ValueList.read true (token :: rest)).values,
          list.2 || (ValueList.read true (token :: rest)).opened) =
        ((addValue list token).1 ++ (ValueList.read false rest).values,
          (addValue list token).2 || (ValueList.read false rest).opened) := by
  cases kind : token.kind <;>
    simp_all [ValueList.read, addValue, ValueList.push, Token.isText, TokenKind.isText]

/-- A list of values that goes on with `tokens` adds their values to those read before. -/
theorem agrees_valuesFrom {tokens : List Token} {later : List String × Bool → OnDemand .tokens β}
    {outcome : Except Failure (Reading β)} (stands : Stands supply ending lookedAhead tokens)
    (afterComma : Bool) (list : List String × Bool)
    (met : (ValueList.read afterComma tokens).rest = [] →
      ∀ failure, ending.settle = .error failure → outcome = .error failure)
    (goes : ∀ after, Stands after ending true (ValueList.read afterComma tokens).rest →
      Agrees ending ((later (list.1 ++ (ValueList.read afterComma tokens).values,
        list.2 || (ValueList.read afterComma tokens).opened)).run after) outcome) :
    Agrees ending ((valuesFrom afterComma list >>= later).run supply) outcome := by
  induction tokens generalizing supply lookedAhead afterComma list with
  | nil =>
      simp only [ValueList.read, List.append_nil, Bool.or_false] at met goes
      cases afterComma with
      | false => exact agrees_loop_nil stands (met trivial) fun _ ended => goes _ ended.stands
      | true =>
          simp only [valuesFrom, bind_assoc]
          refine agrees_skip_nil stands (met trivial) fun _ ended => ?_
          refine agrees_next_nil ended.stands (met trivial) fun _ ended' => ?_
          exact agrees_loop_nil ended'.stands (met trivial) fun _ ended'' => goes _ ended''.stands
  | cons token rest induction =>
      have behindComma {supply : Supply} {lookedAhead : Bool}
          (stands : Stands supply ending lookedAhead (token :: rest))
          (met : (ValueList.read true (token :: rest)).rest = [] →
            ∀ failure, ending.settle = .error failure → outcome = .error failure)
          (goes : ∀ after, Stands after ending true (ValueList.read true (token :: rest)).rest →
            Agrees ending ((later (list.1 ++ (ValueList.read true (token :: rest)).values,
              list.2 || (ValueList.read true (token :: rest)).opened)).run after) outcome) :
          Agrees ending ((valuesFrom true list >>= later).run supply) outcome := by
        simp only [valuesFrom, bind_assoc]
        by_cases isComma : token.kind = .comma
        · simp only [ValueList.read, isComma] at met goes
          refine agrees_skip_cons stands isComma fun _ stands' => ?_
          have onward := induction stands' true list met goes
          simpa only [valuesFrom, bind_assoc] using onward
        · obtain ⟨sameRest, sameList⟩ := read_behind_comma isComma rest list
          rw [sameRest] at met
          rw [sameRest, sameList] at goes
          refine agrees_skip_stop stands isComma fun _ stands' => ?_
          refine agrees_next_cons stands' fun _ stands'' => ?_
          exact induction stands'' false (addValue list token) met goes
      cases afterComma with
      | true => exact behindComma stands met goes
      | false =>
          by_cases ends : token.kind.endsList = true
          · simp only [ValueList.read, ends, Bool.not_false, Bool.and_self, if_true,
              List.append_nil, Bool.or_false] at goes
            exact agrees_loop_stop stands (by simp [valueLoop, ends]) fun _ stands' _ =>
              goes _ stands'
          · have same : ValueList.read false (token :: rest) =
                ValueList.read true (token :: rest) := by
              simp [ValueList.read, ends]
            rw [same] at met goes
            refine agrees_loop_round stands (by simp [valueLoop, ends]) fun _ stands' => ?_
            have onward := behindComma stands' met goes
            simpa only [valueLoop, valueRound, valuesFrom, afterRound, bind_assoc, pure_bind]
              using onward

theorem agrees_readOneOf {tokens : List Token} (stands : Stands supply ending lookedAhead tokens)
    (field : String) (negated : Bool) :
    Agrees ending ((readOneOf field negated).run supply)
      (Query.readOneOf ending field negated tokens) := by
  simp only [readOneOf, Query.readOneOf]
  refine agrees_valuesFrom stands false ([], false) (fun empty failure met => ?_)
    fun after stands' => ?_
  · rw [empty, Query.readClosing]
    split
    · rw [refuse_of_settle met]
      rfl
    · rw [met]
      rfl
  · refine agrees_andThen (agrees_readClosing stands' _) (fun failure refused => ?_)
      fun _ closing closed stands'' => ?_
    · simp only [Bool.false_or] at refused
      rw [refused]
      rfl
    · simp only [Bool.false_or] at closed
      rw [closed]
      exact agrees_done stands'' _

/-- A bound is the next token. -/
theorem agrees_readNumber_cons (stands : Stands supply ending lookedAhead (token :: rest))
    (field : String) :
    Agrees ending ((readNumber field).run supply)
      ((readBound field token rest).map fun value => { value, lookedAhead := false, rest }) := by
  refine agrees_next_cons stands fun after stands' => ?_
  by_cases isWord : token.kind = .ident
  · simp only [readBound, if_pos isWord]
    cases Binary64.ofWord? token.value with
    | some value => exact agrees_done stands' value
    | none => exact agrees_blame stands' token _
  · simp only [readBound, if_neg isWord]
    exact agrees_blame stands' token _

theorem agrees_readNumber_nil (stands : Stands supply ending lookedAhead []) (field : String) :
    Agrees ending ((readNumber field).run supply)
      (.error (ending.refuse (.expectedNumber field))) :=
  agrees_next_refuse stands rfl

/-- A relation in a chain is read with the bound behind it. -/
theorem agrees_chainLoop_relation {field : String} {bounds : Bounds} {relation : Relation}
    {outcome : Except Failure (Reading Bounds)}
    (stands : Stands supply ending lookedAhead (token :: rest)) (notPipe : token.kind ≠ .pipe)
    (names : relation? token = some relation)
    (goes : ∀ after, Stands after ending false rest →
      Agrees ending
        ((readNumber field >>= fun value =>
          (chainLoop field).run (bounds.set relation value)).run after) outcome) :
    Agrees ending (((chainLoop field).run bounds).run supply) outcome := by
  rw [← bind_pure ((chainLoop field).run bounds)]
  refine agrees_loop_round stands (by simp [chainLoop, notPipe]) fun _ stands' => ?_
  simp only [chainLoop, chainRound, bind_assoc]
  refine agrees_next_cons stands' fun _ stands'' => ?_
  have onward := goes _ stands''
  simpa only [names, chainLoop, chainRound, afterRound, bind_assoc, pure_bind, bind_pure]
    using onward

theorem agrees_chainLoop {tokens : List Token} (stands : Stands supply ending lookedAhead tokens)
    (field : String) (bounds : Bounds) :
    Agrees ending (((chainLoop field).run bounds).run supply)
      (readChain ending field bounds tokens) := by
  fun_induction readChain ending field bounds tokens generalizing supply lookedAhead with
  | case1 bounds =>
      rw [← bind_pure ((chainLoop field).run bounds)]
      refine agrees_loop_nil stands (fun _ met => by rw [met]; rfl) fun after ended => ?_
      rw [settle_of_ended ended]
      exact agrees_done ended.stands _
  | case2 bounds token rest isPipe =>
      rw [← bind_pure ((chainLoop field).run bounds)]
      refine agrees_loop_stop stands (by simp [chainLoop, isPipe]) fun _ stands' _ => ?_
      exact agrees_done stands' _
  | case3 bounds token rest notPipe names induction =>
      rw [← bind_pure ((chainLoop field).run bounds)]
      refine agrees_loop_round stands (by simp [chainLoop, notPipe]) fun _ stands' => ?_
      simp only [chainLoop, chainRound, bind_assoc]
      refine agrees_next_cons stands' fun _ stands'' => ?_
      have onward := induction stands''
      simpa only [names, chainLoop, chainRound, afterRound, pure_bind, bind_pure] using onward
  | case4 bounds token notPipe relation names =>
      refine agrees_chainLoop_relation stands notPipe names fun _ stands' => ?_
      exact agrees_andThen_of_error (agrees_readNumber_nil stands' field)
  | case5 bounds token notPipe relation names operand rest failure refused =>
      refine agrees_chainLoop_relation stands notPipe names fun _ stands' => ?_
      have bound := agrees_readNumber_cons stands' field
      rw [refused] at bound
      exact agrees_andThen_of_error bound
  | case6 bounds token notPipe relation names operand rest value read induction =>
      refine agrees_chainLoop_relation stands notPipe names fun _ stands' => ?_
      have bound := agrees_readNumber_cons stands' field
      rw [read] at bound
      exact agrees_andThen_of_ok bound fun _ stands'' => induction stands''

theorem agrees_readRange {tokens : List Token} (stands : Stands supply ending lookedAhead tokens)
    (field : String) (relation : Relation) :
    Agrees ending ((readRange field relation).run supply)
      (Query.readRange ending field relation tokens) := by
  unfold readRange
  cases tokens with
  | nil => exact agrees_andThen_of_error (agrees_readNumber_nil stands field)
  | cons operand rest =>
      have bound := agrees_readNumber_cons stands field
      simp only [Query.readRange, bind, Except.bind]
      cases read : readBound field operand rest with
      | error failure =>
          rw [read] at bound
          exact agrees_andThen_of_error bound
      | ok value =>
          rw [read] at bound
          refine agrees_andThen_of_ok bound fun _ stands' => ?_
          exact agrees_map (agrees_chainLoop stands' field _) (Clause.range field)

theorem agrees_readTest {tokens : List Token} (stands : Stands supply ending lookedAhead tokens)
    (field : String) (negated : Bool) :
    Agrees ending ((readTest field negated).run supply)
      (Query.readTest ending field negated tokens) := by
  unfold readTest Query.readTest
  cases tokens with
  | nil => exact agrees_next_refuse stands rfl
  | cons keyword rest =>
      refine agrees_next_cons stands fun _ stands' => ?_
      by_cases isKeyword : keyword.kind = .ident ∨ keyword.kind = .operator
      · simp only [if_pos isKeyword]
        cases test? keyword.value with
        | none => exact agrees_blame stands' keyword _
        | some test =>
            cases test with
            | oneOf => exact agrees_readOneOf stands' field negated
            | text comparison => exact agrees_readText stands' field comparison
            | bounds relation => exact agrees_readRange stands' field relation
      · simp only [if_neg isKeyword]
        exact agrees_blame stands' keyword _

/-- Behind a field the negating keyword and the test are read. -/
theorem agrees_readNegatedTest {tokens : List Token}
    (stands : Stands supply ending lookedAhead tokens) (field : String) :
    Agrees ending
      ((do let negated ← readNegation; readTest field negated : OnDemand .tokens Clause).run supply)
      (Query.readTest ending field (Query.readNegation tokens).1
        (Query.readNegation tokens).2) := by
  rw [readNegation, bind_assoc]
  unfold Query.readNegation
  cases tokens with
  | nil =>
      refine agrees_peek_nil stands (fun _ met => ?_) fun _ ended => ?_
      · exact congrArg _ (refuse_of_settle met _)
      · exact agrees_readTest ended.stands field false
  | cons token rest =>
      refine agrees_peek_cons stands fun _ stands' _ => ?_
      by_cases negates : token.kind = .ident ∧ Keyword.isNot token.value = true
      · simp only [Option.any_some, beq_iff_eq, Bool.and_eq_true, if_pos negates, bind_assoc,
          pure_bind]
        exact agrees_next_cons stands' fun _ stands'' => agrees_readTest stands'' field true
      · simp only [Option.any_some, beq_iff_eq, Bool.and_eq_true, if_neg negates, pure_bind]
        exact agrees_readTest stands' field false

/-! ## Software -/

theorem agrees_constraintRound_cons {version : Token}
    (stands : Stands supply ending lookedAhead (token :: version :: rest))
    (versions : List Constraint) :
    Agrees ending ((constraintRound versions).run supply)
      ((readConstraint token version rest).map fun constraint =>
        { value := some (versions ++ [constraint]), lookedAhead := false, rest }) := by
  refine agrees_next_cons stands fun _ stands' => ?_
  refine agrees_next_cons stands' fun after stands'' => ?_
  by_cases isText : version.isText = true
  · simp only [readConstraint, if_pos isText]
    cases Keyword.relation? token.value with
    | some kind => exact agrees_done stands'' _
    | none => exact agrees_blame stands'' token _
  · simp only [readConstraint, if_neg isText]
    exact agrees_blame stands'' version _

theorem agrees_constraintRound_nil (stands : Stands supply ending lookedAhead [token])
    (versions : List Constraint) :
    Agrees ending ((constraintRound versions).run supply)
      (.error (ending.refuse .expectedVersion)) :=
  agrees_next_cons stands fun _ stands' => agrees_next_refuse stands' rfl

theorem readConstraints_eq : readConstraints = constraintLoop.run [] :=
  constraintLoop.run_guarded []

/-- Where a list of software goes on without a comma, a demand on a version comes next. -/
theorem accepts_constraintLoop {kind : TokenKind} (goesOn : ¬kind.endsList = true)
    (notComma : kind ≠ .comma) : constraintLoop.accepts kind = true := by
  cases kind <;> simp_all [constraintLoop, TokenKind.endsList, TokenKind.isSeparator]

/-- What is read of a list of software, given the entry whose demands come next, if there is one,
and the entries before it. -/
def entriesFrom : Option Software → List Software → OnDemand .tokens (List Software)
  | none, entries => do
      skip .comma
      let entry ← readEntry
      entryLoop.run (entries ++ [entry])
  | some current, entries => do
      let versions ← constraintLoop.run current.versions
      entryLoop.run (entries ++ [{ current with versions }])

theorem agrees_entriesFrom {tokens : List Token} (stands : Stands supply ending lookedAhead tokens)
    (current? : Option Software) (entries : List Software) :
    Agrees ending ((entriesFrom current? entries).run supply)
      ((readEntries ending current? tokens).map (Reading.map (entries ++ ·))) := by
  fun_induction readEntries ending current? tokens generalizing supply lookedAhead entries with
  | case1 =>
      refine agrees_skip_nil stands (fun _ met => ?_) fun _ ended => ?_
      · rw [refuse_of_settle met]
        rfl
      rw [readEntry, bind_assoc]
      refine agrees_next_nil ended.stands (fun _ met => ?_) fun _ ended' => agrees_refuse ended' _
      rw [refuse_of_settle met]
      rfl
  | case2 current =>
      have met : ∀ failure, ending.settle = .error failure →
          ((ending.settle.map fun _ =>
            ({ value := [current], lookedAhead := true, rest := [] } : Reading _)).map
              (Reading.map (entries ++ ·))) = .error failure := by
        intro failure settled
        rw [settled]
        rfl
      refine agrees_loop_nil stands met fun _ ended => ?_
      rw [← bind_pure (entryLoop.run _)]
      refine agrees_loop_nil ended.stands met fun _ ended' => ?_
      rw [settle_of_ended ended']
      exact agrees_done ended'.stands _
  | case3 token rest isComma induction =>
      exact agrees_skip_cons stands isComma fun _ stands' => induction stands' entries
  | case4 token rest notComma isText induction =>
      refine agrees_skip_stop stands notComma fun _ stands' => ?_
      rw [readEntry, bind_assoc]
      refine agrees_next_cons stands' fun _ stands'' => ?_
      simp only [isText, if_true, bind_assoc, pure_bind, readConstraints_eq]
      exact induction stands'' entries
  | case5 token rest notComma notText =>
      refine agrees_skip_stop stands notComma fun _ stands' => ?_
      rw [readEntry, bind_assoc]
      refine agrees_next_cons stands' fun _ stands'' => ?_
      simp only [notText]
      exact agrees_blame stands'' token _
  | case6 token rest current ends =>
      have separates : token.kind.isSeparator = true := by
        rcases TokenKind.endsList_iff.mp ends with isPipe | closes
        · rw [isPipe]; rfl
        · rw [closes]; rfl
      refine agrees_loop_stop stands (by simp [constraintLoop, separates]) fun _ stands' _ => ?_
      rw [← bind_pure (entryLoop.run _)]
      refine agrees_loop_stop stands' (by simp [entryLoop, ends]) fun _ stands'' _ => ?_
      exact agrees_done stands'' _
  | case7 token rest current goesOn isComma induction =>
      have separates : token.kind.isSeparator = true := by rw [isComma]; rfl
      refine agrees_loop_stop stands (by simp [constraintLoop, separates]) fun _ stands' _ => ?_
      rw [← bind_pure (entryLoop.run _)]
      refine agrees_loop_round stands' (by simp [entryLoop, goesOn]) fun _ stands'' => ?_
      simp only [entryLoop, entryRound, bind_assoc]
      refine agrees_skip_cons stands'' isComma fun _ stands''' => ?_
      have onward := induction stands''' (entries ++ [current])
      have same : ((readEntries ending none rest).map (Reading.map (current :: ·))).map
            (Reading.map (entries ++ ·)) =
          (readEntries ending none rest).map (Reading.map (entries ++ [current] ++ ·)) := by
        cases readEntries ending none rest <;> simp [Except.map, Reading.map]
      rw [same]
      simpa only [entriesFrom, entryLoop, afterRound, bind_assoc, pure_bind, bind_pure] using onward
  | case8 token current goesOn notComma =>
      have accepted := accepts_constraintLoop goesOn notComma
      refine agrees_loop_round stands accepted fun _ stands' => ?_
      exact agrees_andThen_of_error (agrees_constraintRound_nil stands' _)
  | case9 token current goesOn notComma version rest failure refused =>
      have accepted := accepts_constraintLoop goesOn notComma
      refine agrees_loop_round stands accepted fun _ stands' => ?_
      have demand := agrees_constraintRound_cons stands' current.versions
      rw [refused] at demand
      exact agrees_andThen_of_error demand
  | case10 token current goesOn notComma version rest constraint read induction =>
      have accepted := accepts_constraintLoop goesOn notComma
      refine agrees_loop_round stands accepted fun _ stands' => ?_
      have demand := agrees_constraintRound_cons stands' current.versions
      rw [read] at demand
      exact agrees_andThen_of_ok demand fun _ stands'' => induction stands'' entries

theorem agrees_entryLoop (stands : Stands supply ending lookedAhead (token :: rest))
    (isText : token.isText = true) :
    Agrees ending ((entryLoop.run []).run supply) (readEntries ending none (token :: rest)) := by
  have goesOn : token.kind.endsList = false := by
    rcases TokenKind.isText_iff.mp isText with isString | isWord
    · rw [isString]; rfl
    · rw [isWord]; rfl
  rw [← bind_pure (entryLoop.run [])]
  refine agrees_loop_round stands (by simp [entryLoop, goesOn]) fun _ stands' => ?_
  have onward := agrees_entriesFrom stands' none []
  have same : (readEntries ending none (token :: rest)).map (Reading.map ([] ++ ·)) =
      readEntries ending none (token :: rest) := by
    cases readEntries ending none (token :: rest) <;> rfl
  rw [same] at onward
  simpa only [entriesFrom, entryLoop, entryRound, afterRound, bind_assoc, pure_bind, bind_pure]
    using onward

theorem agrees_readRequested {tokens : List Token}
    (stands : Stands supply ending lookedAhead tokens) (fuzzy opened : Bool) :
    Agrees ending ((readRequested fuzzy opened).run supply)
      (Query.readRequested ending fuzzy opened tokens) := by
  unfold readRequested
  cases tokens with
  | nil =>
      refine agrees_peek_nil stands (fun _ met => ?_) fun _ ended => agrees_refuse ended _
      exact congrArg _ (refuse_of_settle met _)
  | cons token rest =>
      refine agrees_peek_cons stands fun _ stands' column => ?_
      by_cases isText : token.isText = true
      · by_cases isReference : isListReference token = true
        · simp only [Query.readRequested, isText, isReference, if_true]
          refine agrees_next_cons stands' fun _ stands'' => ?_
          refine agrees_andThen (agrees_readClosing stands'' opened)
            (fun failure refused => by rw [refused]; rfl) fun _ closing closed stands''' => ?_
          rw [closed]
          exact agrees_done stands''' _
        · simp only [Query.readRequested, isText, isReference, if_true, Bool.false_eq_true,
            if_false, bind, Except.bind]
          refine agrees_andThen (agrees_entryLoop stands' isText)
            (fun failure refused => by rw [refused]) fun _ entries listed stands'' => ?_
          simp only [listed]
          refine agrees_andThen (agrees_readClosing stands'' opened)
            (fun failure refused => by rw [refused]) fun _ closing closed stands''' => ?_
          rw [closed]
          exact agrees_done stands''' _
      · simp only [Query.readRequested, isText]
        exact agrees_blame_next stands' column _

/-- Behind the comparison keyword an opening parenthesis and the request are read. -/
theorem agrees_readOpened {tokens : List Token} (stands : Stands supply ending lookedAhead tokens)
    (fuzzy : Bool) :
    Agrees ending
      ((do
        let opened ← readOpening
        let request ← readRequested fuzzy opened
        return .software request : OnDemand .tokens Clause).run supply)
      ((Query.readRequested ending fuzzy (Query.readOpening tokens).1
        (Query.readOpening tokens).2).map (Reading.map .software)) := by
  rw [readOpening, bind_assoc]
  unfold Query.readOpening
  cases tokens with
  | nil =>
      refine agrees_upcoming_nil stands (fun _ met => ?_) fun _ ended => ?_
      · simp only [Query.readRequested, refuse_of_settle met]
        rfl
      · exact agrees_map (agrees_readRequested ended.stands fuzzy false) _
  | cons token rest =>
      refine agrees_upcoming_cons stands fun _ stands' _ => ?_
      by_cases opens : token.kind = .openParen
      · simp only [opens, beq_self_eq_true, if_true, bind_assoc, pure_bind]
        refine agrees_next_cons stands' fun _ stands'' => ?_
        exact agrees_map (agrees_readRequested stands'' fuzzy true) _
      · simp only [beq_eq_false_iff_ne.mpr opens, if_neg opens]
        exact agrees_map (agrees_readRequested stands' fuzzy false) _

theorem agrees_readSoftware {tokens : List Token}
    (stands : Stands supply ending lookedAhead tokens) :
    Agrees ending (readSoftware.run supply) (Query.readSoftware ending tokens) := by
  unfold readSoftware
  cases tokens with
  | nil => exact agrees_next_refuse stands rfl
  | cons keyword rest =>
      refine agrees_next_cons stands fun _ stands' => ?_
      by_cases isKeyword : (keyword.isText || keyword.kind = .operator) = true
      · cases compares : Keyword.comparison? keyword.value with
        | none =>
            simp only [Query.readSoftware, if_pos isKeyword, compares]
            exact agrees_blame stands' keyword _
        | some comparison =>
            rw [readSoftware_of_comparison isKeyword compares]
            simp only [if_pos isKeyword, compares]
            exact agrees_readOpened stands' _
      · simp only [Query.readSoftware, if_neg isKeyword]
        exact agrees_blame stands' keyword _

/-! ## Clauses -/

theorem agrees_readBehindWord {tokens : List Token} (stands : Stands supply ending false tokens)
    (settings : Settings) (word : Token) :
    Agrees ending ((readBehindWord settings word).run supply)
      (Query.readWord settings ending word tokens) := by
  by_cases isReserved : word.value ∈ Keyword.reserved
  · simp only [Keyword.reserved, List.mem_cons, List.not_mem_nil, or_false] at isReserved
    rcases isReserved with isFilter | isGroup | isSoftware
    · rw [readWord_filter isFilter]
      simp only [readBehindWord, isFilter]
      exact agrees_readOperand stands _
    · rw [readWord_group isGroup]
      simp only [readBehindWord, isGroup]
      exact agrees_readOperand stands _
    · rw [readWord_software isSoftware]
      simp only [readBehindWord, isSoftware]
      exact agrees_map (agrees_readSoftware stands) some
  · rw [readWord_field isReserved]
    unfold readBehindWord
    split
    · next isFilter => simp [Keyword.reserved, isFilter] at isReserved
    · next isGroup => simp [Keyword.reserved, isGroup] at isReserved
    · next isSoftware => simp [Keyword.reserved, isSoftware] at isReserved
    · by_cases admitted : settings.admits word.value = true
      · simp only [if_pos admitted]
        have tested := agrees_map (agrees_readNegatedTest stands word.value) some
        simpa only [bind_assoc] using tested
      · simp only [if_neg admitted]
        exact agrees_blame stands word _

theorem agrees_readFirst (stands : Stands supply ending true (token :: rest))
    (settings : Settings) :
    Agrees ending ((readFirst settings token).run supply)
      (Query.readClause settings ending token rest) := by
  unfold readFirst Query.readClause
  cases token.kind with
  | ident =>
      exact agrees_next_cons stands fun _ stands' => agrees_readBehindWord stands' settings token
  | string => exact agrees_next_cons stands fun _ stands' => agrees_done stands' _
  | pipe | openParen | closeParen | comma | operator => exact agrees_blame stands token _

/-- What is read of some tokens behind the pipes in front of them: a clause, unless none is left. -/
def readBehindPipes (settings : Settings) (ending : Ending) :
    List Token → Except Failure (Reading (Option Clause))
  | [] => ending.settle.map fun _ => { value := none, lookedAhead := true, rest := [] }
  | token :: rest =>
      if token.kind = .pipe then readBehindPipes settings ending rest
      else Query.readClause settings ending token rest

theorem agrees_readClause {tokens : List Token} (stands : Stands supply ending lookedAhead tokens)
    (settings : Settings) :
    Agrees ending ((readClause settings).run supply)
      (readBehindPipes settings ending tokens) := by
  rw [readClause]
  fun_induction readBehindPipes settings ending tokens generalizing supply lookedAhead with
  | case1 =>
      have met : ∀ failure, ending.settle = .error failure →
          (ending.settle.map fun _ =>
            ({ value := none, lookedAhead := true, rest := [] } : Reading (Option Clause))) =
            .error failure := by
        intro failure settled
        rw [settled]
        rfl
      refine agrees_skip_nil stands met fun _ ended => ?_
      refine agrees_peek_nil ended.stands met fun _ ended' => ?_
      rw [settle_of_ended ended']
      exact agrees_done ended'.stands _
  | case2 token rest isPipe induction =>
      exact agrees_skip_cons stands isPipe fun _ stands' => induction stands'
  | case3 token rest notPipe =>
      refine agrees_skip_stop stands notPipe fun _ stands' => ?_
      exact agrees_peek_cons stands' fun _ stands'' _ => agrees_readFirst stands'' settings

/-- A clause that is read takes a token, if there is one, and leaves the end of the others. -/
theorem suffix_of_readBehindPipes {settings : Settings} {tokens : List Token}
    {reading : Reading (Option Clause)}
    (read : readBehindPipes settings ending tokens = .ok reading) :
    reading.rest <:+ tokens.tail := by
  fun_induction readBehindPipes settings ending tokens with
  | case1 =>
      unfold Ending.settle at read
      split at read <;> cases read
      exact List.suffix_refl _
  | case2 token rest isPipe induction => exact (induction read).trans (List.tail_suffix rest)
  | case3 token rest notPipe => exact suffix_of_readClause read

/-- Clauses are read one after the other. -/
theorem readClauses_of_read {settings : Settings} {tokens : List Token}
    {reading : Reading (Option Clause)}
    (read : readBehindPipes settings ending tokens = .ok reading) :
    readClauses settings ending tokens =
      (readClauses settings ending reading.rest).push reading := by
  fun_induction readBehindPipes settings ending tokens with
  | case1 =>
      unfold Ending.settle at read
      split at read <;> cases read
      rfl
  | case2 token rest isPipe induction =>
      rw [readClauses_pipe settings ending rest isPipe, induction read]
  | case3 token rest notPipe => exact readClauses_of_ok notPipe read

theorem readClauses_of_refused {settings : Settings} {tokens : List Token} {failure : Failure}
    (refused : readBehindPipes settings ending tokens = .error failure) :
    readClauses settings ending tokens = .stop (some failure) := by
  fun_induction readBehindPipes settings ending tokens with
  | case1 =>
      rw [readClauses]
      cases settled : ending.settle with
      | ok _ => rw [settled] at refused; cases refused
      | error failure' => rw [settled] at refused; cases refused; rfl
  | case2 token rest isPipe induction =>
      rw [readClauses_pipe settings ending rest isPipe, induction refused]
  | case3 token rest notPipe => exact readClauses_of_error notPipe refused

end OnDemand
end PipeQuery

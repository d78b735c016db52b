import PipeQuery.Proofs.Reading.Locality

/-!
# Verdicts in front of a fault

With a fault behind its tokens a reader either meets that fault or comes to a verdict before, which
other tokens and another ending in the place of the fault do not change (`Query.outcome_of_fault`).
In no other way does a reader fail for a fault in the text (`Query.settle_of_lexical`).
-/

namespace PipeQuery
namespace Query

/-- The same failure with more tokens that no reader has looked at. -/
def Failure.extend (more : List Token) (failure : Failure) : Failure :=
  { failure with unlexed := failure.unlexed ++ more }

/-- The same outcome with more tokens behind those left. -/
def extendOutcome {α : Type} (more : List Token) :
    Except Failure (Reading α) → Except Failure (Reading α)
  | .ok reading => .ok { reading with rest := reading.rest ++ more }
  | .error failure => .error (failure.extend more)

theorem extendOutcome_map {α β : Type} (f : α → β) (more : List Token)
    (outcome : Except Failure (Reading α)) :
    extendOutcome more (outcome.map (Reading.map f)) =
      (extendOutcome more outcome).map (Reading.map f) := by
  cases outcome <;> rfl

/-- The text is not to blame. -/
def Grammatical {α : Type} (outcome : Except Failure (Reading α)) : Prop :=
  ∀ failure, outcome = .error failure → failure.cause.isLexical = false

theorem grammatical_ok {α : Type} (reading : Reading α) :
    Grammatical (.ok reading : Except Failure (Reading α)) :=
  nofun

theorem grammatical_error {α : Type} {failure : Failure} :
    Grammatical (.error failure : Except Failure (Reading α)) ↔
      failure.cause.isLexical = false := by
  constructor
  · exact fun grammatical => grammatical failure rfl
  · rintro notLexical _ ⟨⟩
    exact notLexical

theorem Grammatical.map {α β : Type} {outcome : Except Failure (Reading α)}
    (grammatical : Grammatical outcome) (f : α → β) :
    Grammatical (outcome.map (Reading.map f)) := by
  cases outcome with
  | ok reading => exact grammatical_ok _
  | error failure => exact grammatical_error.mpr (grammatical_error.mp grammatical)

/-- An outcome is the fault behind the tokens, or there is none, or the outcome is final: the same
comes out with more tokens behind them and any ending. -/
inductive Verdict {α : Type} (ending : Ending) (outcome : Except Failure (Reading α))
    (longer : Ending → List Token → Except Failure (Reading α)) : Prop where
  /-- The fault has been met. -/
  | faulty {failure : Failure} (settled : ending.settle = .error failure)
      (met : outcome = .error failure)
  /-- The query ends behind the tokens. -/
  | whole (whole : ending.fault = none) (grammatical : Grammatical outcome)
  /-- Nothing behind the tokens matters. -/
  | final (same : ∀ ending' more, longer ending' more = extendOutcome more outcome)
      (grammatical : Grammatical outcome)

namespace Verdict

variable {α β : Type} {ending : Ending} {outcome : Except Failure (Reading α)}
  {longer : Ending → List Token → Except Failure (Reading α)}

/-- A token among those read is to blame. -/
theorem blame {token : Token} {cause : Cause} {unlexed : List Token}
    (grammatical : cause.isLexical = false)
    (same : ∀ ending' more, longer ending' more = .error (.blame token cause (unlexed ++ more))) :
    Verdict ending (.error (.blame token cause unlexed)) longer :=
  .final same (grammatical_error.mpr grammatical)

/-- The reader is content in front of the end. -/
theorem done {reading : Reading α}
    (same : ∀ ending' more,
      longer ending' more = .ok { reading with rest := reading.rest ++ more }) :
    Verdict ending (.ok reading) longer :=
  .final same (grammatical_ok reading)

/-- A token is wanted behind the last one. -/
theorem refuse {cause : Cause} (grammatical : cause.isLexical = false) :
    Verdict ending (.error (ending.refuse cause)) longer := by
  obtain ⟨_ | fault, length⟩ := ending
  · exact .whole rfl (grammatical_error.mpr grammatical)
  · exact .faulty rfl rfl

/-- The reader looks behind the last token. -/
theorem settle (f : Unit → Reading α) : Verdict ending (ending.settle.map f) longer := by
  obtain ⟨_ | fault, length⟩ := ending
  · exact .whole rfl (grammatical_ok _)
  · exact .faulty rfl rfl

theorem map (f : α → β) (verdict : Verdict ending outcome longer) :
    Verdict ending (outcome.map (Reading.map f))
      fun ending' more => (longer ending' more).map (Reading.map f) := by
  cases verdict with
  | faulty settled met =>
      rw [met]
      exact .faulty settled rfl
  | whole whole grammatical => exact .whole whole (grammatical.map f)
  | final same grammatical =>
      exact .final (fun ending' more => by rw [same, extendOutcome_map]) (grammatical.map f)

/-- A reader behind another one. -/
theorem bind {next : Ending → Reading α → Except Failure (Reading β)}
    (verdict : Verdict ending outcome longer)
    (later : ∀ reading, outcome = .ok reading → Verdict ending (next ending reading)
      fun ending' more => next ending' { reading with rest := reading.rest ++ more }) :
    Verdict ending (outcome >>= next ending)
      fun ending' more => longer ending' more >>= next ending' := by
  cases read : outcome with
  | error failure =>
      rw [read] at verdict
      cases verdict with
      | faulty settled met =>
          cases met
          exact .faulty settled rfl
      | whole whole grammatical =>
          exact .whole whole (grammatical_error.mpr (grammatical_error.mp grammatical))
      | final same grammatical =>
          exact .final (fun ending' more => by rw [same]; rfl)
            (grammatical_error.mpr (grammatical_error.mp grammatical))
  | ok reading =>
      rw [read] at verdict
      have behind := later reading read
      cases verdict with
      | faulty settled met => cases met
      | whole whole _ =>
          cases behind with
          | faulty settled met => exact .faulty settled met
          | whole _ grammatical => exact .whole whole grammatical
          | final _ grammatical => exact .whole whole grammatical
      | final same _ =>
          cases behind with
          | faulty settled met => exact .faulty settled met
          | whole whole grammatical => exact .whole whole grammatical
          | final same' grammatical =>
              exact .final (fun ending' more => by rw [same]; exact same' ending' more) grammatical

/-- A reading in front of a fault is final. -/
theorem same_of_ok {fault : LexicalFault} {reading : Reading α} (faulty : ending.fault = some fault)
    (verdict : Verdict ending (.ok reading) longer) (ending' : Ending) (more : List Token) :
    longer ending' more = .ok { reading with rest := reading.rest ++ more } := by
  cases verdict with
  | faulty settled met => cases met
  | whole whole => rw [faulty] at whole; cases whole
  | final same => exact same ending' more

/-- A failure in front of a fault is that fault or final. -/
theorem same_of_error {fault : LexicalFault} {failure : Failure}
    (faulty : ending.fault = some fault) (verdict : Verdict ending (.error failure) longer) :
    ending.settle = .error failure ∨
      ∀ ending' more, longer ending' more = .error (failure.extend more) := by
  cases verdict with
  | faulty settled met => cases met; exact .inl settled
  | whole whole => rw [faulty] at whole; cases whole
  | final same => exact .inr same

/-- Only the fault behind the tokens is a failure for a fault in the text. -/
theorem settle_of_lexical {failure : Failure} (verdict : Verdict ending (.error failure) longer)
    (isLexical : failure.cause.isLexical = true) : ending.settle = .error failure := by
  cases verdict with
  | faulty settled met => cases met; exact settled
  | whole _ grammatical =>
      rw [grammatical_error.mp grammatical] at isLexical
      cases isLexical
  | final _ grammatical =>
      rw [grammatical_error.mp grammatical] at isLexical
      cases isLexical

end Verdict

variable {ending : Ending}

theorem verdict_readClosing (required : Bool) (tokens : List Token) :
    Verdict ending (readClosing ending required tokens)
      fun ending' more => readClosing ending' required (tokens ++ more) := by
  cases tokens with
  | nil =>
      cases required with
      | true => exact .refuse rfl
      | false => exact .settle _
  | cons token rest =>
      simp only [List.cons_append, readClosing]
      split
      · exact .done fun _ _ => rfl
      · split
        · exact .blame rfl fun _ _ => rfl
        · exact .done fun _ _ => rfl

/-! ## Lists of values and chains of bounds -/

theorem ValueList.read_append {afterComma : Bool} {tokens : List Token} {token : Token}
    {rest : List Token} (left : (read afterComma tokens).rest = token :: rest)
    (more : List Token) :
    read afterComma (tokens ++ more) =
      { read afterComma tokens with rest := (read afterComma tokens).rest ++ more } := by
  obtain ⟨taken, split, halted, onward⟩ := exists_taken afterComma tokens
  have ends : Ends afterComma taken ((read afterComma tokens).rest ++ more) := by
    rw [left] at halted ⊢
    exact halted
  have same := read_eq_of_ends onward halted ends
  rw [← split, ← List.append_assoc, ← split] at same
  exact same

theorem verdict_readOneOf (field : String) (negated : Bool) (tokens : List Token) :
    Verdict ending (readOneOf ending field negated tokens)
      fun ending' more => readOneOf ending' field negated (tokens ++ more) := by
  cases left : (ValueList.read false tokens).rest with
  | nil =>
      rw [readOneOf, left]
      cases (ValueList.read false tokens).opened with
      | true => exact .refuse rfl
      | false =>
          have settles (clause : Clause) :
              (readClosing ending false []).map (Reading.map fun _ => clause) =
                ending.settle.map fun _ => { value := clause, lookedAhead := true, rest := [] } :=
            (comp_map _ _ ending.settle).symm
          rw [settles]
          exact .settle _
  | cons token rest =>
      simp only [readOneOf, ValueList.read_append left]
      exact (verdict_readClosing _ _).map _

/-- An operand that is no bound is to blame. -/
theorem exists_of_readBound_error {field : String} {token : Token} {unlexed : List Token}
    {failure : Failure} (failed : readBound field token unlexed = .error failure) :
    ∃ cause, cause.isLexical = false ∧ failure = .blame token cause unlexed ∧
      ∀ unlexed', readBound field token unlexed' = .error (.blame token cause unlexed') := by
  unfold readBound at failed ⊢
  split at failed
  · next isWord =>
      split at failed
      · cases failed
      · cases failed
        exact ⟨_, rfl, rfl, fun _ => if_pos isWord⟩
  · next notWord =>
      cases failed
      exact ⟨_, rfl, rfl, fun _ => if_neg notWord⟩

theorem verdict_readChain (field : String) (bounds : Bounds) (tokens : List Token) :
    Verdict ending (readChain ending field bounds tokens)
      fun ending' more => readChain ending' field bounds (tokens ++ more) := by
  fun_induction readChain ending field bounds tokens with
  | case1 bounds => exact .settle _
  | case2 bounds token rest isPipe =>
      refine .done fun ending' more => ?_
      rw [List.cons_append, readChain, if_pos isPipe]
  | case3 bounds token rest notPipe noRelation induction =>
      simpa only [List.cons_append, readChain, if_neg notPipe, noRelation] using induction
  | case4 bounds token notPipe relation isRelation => exact .refuse rfl
  | case5 bounds token notPipe relation isRelation operand rest failure failed =>
      obtain ⟨cause, grammatical, rfl, again⟩ := exists_of_readBound_error failed
      refine .blame grammatical fun ending' more => ?_
      simp only [List.cons_append, readChain, if_neg notPipe, isRelation, again]
  | case6 bounds token notPipe relation isRelation operand rest value read induction =>
      simpa only [List.cons_append, readChain, if_neg notPipe, isRelation, readBound_ok read _]
        using induction

theorem verdict_readRange (field : String) (relation : Relation) (tokens : List Token) :
    Verdict ending (readRange ending field relation tokens)
      fun ending' more => readRange ending' field relation (tokens ++ more) := by
  cases tokens with
  | nil => exact .refuse rfl
  | cons operand rest =>
      simp only [List.cons_append, readRange]
      cases bound : readBound field operand rest with
      | error failure =>
          obtain ⟨cause, grammatical, rfl, again⟩ := exists_of_readBound_error bound
          exact .blame grammatical fun ending' more => by rw [again]; rfl
      | ok value =>
          simp only [readBound_ok bound _]
          exact (verdict_readChain field _ rest).map _

/-! ## Requests for software -/

/-- A demand that is none is to blame for its relation or for its version. -/
theorem exists_of_readConstraint_error {relation version : Token} {unlexed : List Token}
    {failure : Failure} (failed : readConstraint relation version unlexed = .error failure) :
    ∃ token cause, cause.isLexical = false ∧ failure = .blame token cause unlexed ∧
      ∀ unlexed',
        readConstraint relation version unlexed' = .error (.blame token cause unlexed') := by
  unfold readConstraint at failed ⊢
  split at failed
  · next isText =>
      split at failed
      · cases failed
      · cases failed
        exact ⟨_, _, rfl, rfl, fun _ => if_pos isText⟩
  · next notText =>
      cases failed
      exact ⟨_, _, rfl, rfl, fun _ => if_neg notText⟩

theorem verdict_readEntries (current? : Option Software) (tokens : List Token) :
    Verdict ending (readEntries ending current? tokens)
      fun ending' more => readEntries ending' current? (tokens ++ more) := by
  fun_induction readEntries ending current? tokens with
  | case1 => exact .refuse rfl
  | case2 current => exact .settle _
  | case3 token rest isComma induction =>
      simpa only [List.cons_append, readEntries_none_cons, if_pos isComma] using induction
  | case4 token rest notComma isText induction =>
      simpa only [List.cons_append, readEntries_none_cons, if_neg notComma, if_pos isText]
        using induction
  | case5 token rest notComma notText =>
      refine .blame rfl fun ending' more => ?_
      rw [List.cons_append, readEntries_none_cons, if_neg notComma, if_neg notText]
  | case6 token rest current ends =>
      refine .done fun ending' more => ?_
      rw [List.cons_append, readEntries_some_cons, if_pos ends]
  | case7 token rest current goesOn isComma induction =>
      simpa only [List.cons_append, readEntries_some_cons, if_neg goesOn, if_pos isComma]
        using induction.map (current :: ·)
  | case8 token current goesOn notComma => exact .refuse rfl
  | case9 token current goesOn notComma version rest failure failed =>
      obtain ⟨blamed, cause, grammatical, rfl, again⟩ := exists_of_readConstraint_error failed
      refine .blame grammatical fun ending' more => ?_
      simp only [List.cons_append, readEntries_some_cons, if_neg goesOn, if_neg notComma, again]
  | case10 token current goesOn notComma version rest constraint read induction =>
      simpa only [List.cons_append, readEntries_some_cons, if_neg goesOn, if_neg notComma,
        readConstraint_ok read _] using induction

theorem verdict_readRequested (fuzzy opened : Bool) (tokens : List Token) :
    Verdict ending (readRequested ending fuzzy opened tokens)
      fun ending' more => readRequested ending' fuzzy opened (tokens ++ more) := by
  cases tokens with
  | nil => exact .refuse rfl
  | cons token rest =>
      simp only [List.cons_append, readRequested]
      split
      · split
        · exact (verdict_readClosing opened rest).map _
        · apply (verdict_readEntries none (token :: rest)).bind
          intro entries _
          simp only [bind_pure_comp]
          exact (verdict_readClosing opened entries.rest).map _
      · exact .blame rfl fun _ _ => rfl

theorem readOpening_append (token : Token) (rest more : List Token) :
    readOpening (token :: (rest ++ more)) =
      ((readOpening (token :: rest)).1, (readOpening (token :: rest)).2 ++ more) := by
  simp only [readOpening]
  split <;> rfl

theorem verdict_readSoftware (tokens : List Token) :
    Verdict ending (readSoftware ending tokens)
      fun ending' more => readSoftware ending' (tokens ++ more) := by
  cases tokens with
  | nil => exact .refuse rfl
  | cons keyword rest =>
      simp only [List.cons_append, readSoftware]
      split
      · split
        · exact .blame rfl fun _ _ => rfl
        · cases rest with
          | nil => exact .refuse rfl
          | cons token rest =>
              simp only [List.cons_append, readOpening_append]
              exact (verdict_readRequested _ _ _).map _
      · exact .blame rfl fun _ _ => rfl

/-! ## Clauses about a field -/

theorem verdict_readText (field : String) (comparison : Keyword.Comparison)
    (tokens : List Token) :
    Verdict ending (readText ending field comparison tokens)
      fun ending' more => readText ending' field comparison (tokens ++ more) := by
  cases tokens with
  | nil => exact .refuse rfl
  | cons token rest =>
      simp only [List.cons_append, readText]
      split
      · exact .done fun _ _ => rfl
      · exact .blame rfl fun _ _ => rfl

theorem verdict_readTest (field : String) (negated : Bool) (tokens : List Token) :
    Verdict ending (readTest ending field negated tokens)
      fun ending' more => readTest ending' field negated (tokens ++ more) := by
  cases tokens with
  | nil => exact .refuse rfl
  | cons keyword rest =>
      simp only [List.cons_append, readTest]
      split
      · split
        · exact verdict_readOneOf field negated rest
        · exact verdict_readText field _ rest
        · exact verdict_readRange field _ rest
        · exact .blame rfl fun _ _ => rfl
      · exact .blame rfl fun _ _ => rfl

theorem readNegation_append (token : Token) (rest more : List Token) :
    readNegation (token :: (rest ++ more)) =
      ((readNegation (token :: rest)).1, (readNegation (token :: rest)).2 ++ more) := by
  simp only [readNegation]
  split <;> rfl

/-! ## Clauses -/

theorem verdict_readOperand (clause : String → Clause) (tokens : List Token) :
    Verdict ending (readOperand ending clause tokens)
      fun ending' more => readOperand ending' clause (tokens ++ more) := by
  cases tokens with
  | nil => exact .settle _
  | cons token rest => exact .done fun _ _ => rfl

theorem verdict_readWord (settings : Settings) (word : Token) (tokens : List Token) :
    Verdict ending (readWord settings ending word tokens)
      fun ending' more => readWord settings ending' word (tokens ++ more) := by
  unfold readWord
  split
  · exact verdict_readOperand _ tokens
  · exact verdict_readOperand _ tokens
  · exact (verdict_readSoftware tokens).map _
  · split
    · cases tokens with
      | nil => exact .refuse rfl
      | cons token rest =>
          simp only [List.cons_append, readNegation_append]
          exact (verdict_readTest _ _ _).map _
    · exact .blame rfl fun _ _ => rfl

theorem verdict_readClause (settings : Settings) (token : Token) (tokens : List Token) :
    Verdict ending (readClause settings ending token tokens)
      fun ending' more => readClause settings ending' token (tokens ++ more) := by
  unfold readClause
  split
  · exact verdict_readWord settings token tokens
  · exact .done fun _ _ => rfl
  · exact .blame rfl fun _ _ => rfl

/-- Behind the last token there is no failure but for the fault there. -/
theorem exists_of_settle {failure : Failure}
    (settled : ending.settle = .error failure) :
    ∃ fault, ending.fault = some fault ∧
      failure =
        { cause := .lexical fault, column := fault.column ending.length, unlexed := [] } := by
  obtain ⟨_ | fault, length⟩ := ending
  · cases settled
  · exact ⟨fault, rfl, (Except.error.inj settled).symm⟩

/-- A run that fails for a fault in the text has met the one behind its tokens. -/
theorem settle_of_lexical {settings : Settings} {tokens : List Token} {failure : Failure}
    (failed : (readClauses settings ending tokens).outcome = .error failure)
    (isLexical : failure.cause.isLexical = true) : ending.settle = .error failure := by
  fun_induction readClauses settings ending tokens with
  | case1 => cases failed
  | case2 failure' settled => cases failed; exact settled
  | case3 token rest isPipe induction => exact induction failed
  | case4 token rest notPipe reading read induction =>
      exact induction (outcome_of_push_error failed)
  | case5 token rest notPipe failure' failed' =>
      cases failed
      have verdict : Verdict ending _ _ := verdict_readClause settings token rest
      rw [failed'] at verdict
      exact verdict.settle_of_lexical isLexical

/-- Without a fault behind the tokens a run does not fail for one. -/
theorem isLexical_of_whole (whole : ending.fault = none) {settings : Settings}
    {tokens : List Token} {failure : Failure}
    (failed : (readClauses settings ending tokens).outcome = .error failure) :
    failure.cause.isLexical = false := by
  cases isLexical : failure.cause.isLexical with
  | false => rfl
  | true =>
      obtain ⟨fault, found, -⟩ := exists_of_settle (settle_of_lexical failed isLexical)
      rw [whole] at found
      cases found

/-- A run in front of a fault fails.  It meets that fault, or it fails in the same way whatever
stands behind the tokens. -/
theorem outcome_of_fault {fault : LexicalFault} (faulty : ending.fault = some fault)
    (settings : Settings) (tokens : List Token) :
    ∃ failure, (readClauses settings ending tokens).outcome = .error failure ∧
      (ending.settle = .error failure ∨ ∀ ending' more,
        (readClauses settings ending' (tokens ++ more)).outcome =
          .error (failure.extend more)) := by
  fun_induction readClauses settings ending tokens with
  | case1 _ settled =>
      rw [Ending.settle, faulty] at settled
      cases settled
  | case2 failure settled => exact ⟨failure, rfl, .inl settled⟩
  | case3 token rest isPipe induction =>
      simpa only [List.cons_append, readClauses_pipe _ _ _ isPipe] using induction
  | case4 token rest notPipe reading read induction =>
      obtain ⟨failure, failed, met | same⟩ := induction
      · exact ⟨failure, by rw [outcome_push, failed]; rfl, .inl met⟩
      · refine ⟨failure, by rw [outcome_push, failed]; rfl, .inr fun ending' more => ?_⟩
        have verdict : Verdict ending _ _ := verdict_readClause settings token rest
        rw [read] at verdict
        have read' := verdict.same_of_ok faulty ending' more
        rw [List.cons_append, readClauses_of_ok notPipe read', outcome_push, same]
        rfl
  | case5 token rest notPipe failure failed =>
      have verdict : Verdict ending _ _ := verdict_readClause settings token rest
      rw [failed] at verdict
      refine ⟨failure, rfl, (verdict.same_of_error faulty).imp_right fun same ending' more => ?_⟩
      rw [List.cons_append, readClauses_of_error notPipe (same ending' more)]
      rfl

end Query
end PipeQuery

import PipeQuery.Proofs.Reading.Locality

/-!
# The token to blame

A reader that refuses its tokens blames the first one that spoils them: the tokens in front of it
can still be completed, and nothing behind it can help.  A reader that blames the end of its tokens
could have gone on there.  The main statement here is `Query.blames_of_readClauses`.

In one case the tokens in front cannot be completed either.  Whether a version is there at all is
checked before the relation in front of it, so a missing version is reported even if that relation
is none.
-/

namespace PipeQuery
namespace Query

/-- Tokens by which everything unfinished can be finished. -/
inductive Filler where
  /-- The keyword in front of a list of values. -/
  | keyword
  /-- A number, which is also a text. -/
  | value
  /-- A closing parenthesis. -/
  | closing
  deriving DecidableEq, Repr

/-- A filler as a token; its offset does not matter. -/
def Filler.token : Filler → Token
  | keyword => { kind := .ident, value := "in", pos := 0 }
  | value => { kind := .ident, value := "1", pos := 0 }
  | closing => { kind := .closeParen, value := ")", pos := 0 }

/-- With some fillers behind them the reader takes these tokens and leaves none. -/
def Completable {α : Type} (read : Ending → List Token → Except Failure (Reading α))
    (tokens : List Token) : Prop :=
  ∃ fillers : List Filler, ∀ ending, ending.fault = none →
    ∃ reading, read ending (tokens ++ fillers.map Filler.token) = .ok reading ∧ reading.rest = []

/-- Whatever stands behind these tokens, the reader refuses them. -/
def Hopeless {α : Type} (read : Ending → List Token → Except Failure (Reading α))
    (tokens : List Token) : Prop :=
  ∀ ending more reading, read ending (tokens ++ more) ≠ .ok reading

/-- A version is missing behind something that is no relation. -/
def Unresolved (cause : Cause) (before : List Token) : Prop :=
  cause = .expectedVersion ∧ ∃ last ∈ before.getLast?, Keyword.relation? last.value = none

/-- A failure is placed at the first token that spoils the others, or at their end. -/
inductive Blames (completable hopeless : List Token → Prop) (ending : Ending)
    (tokens : List Token) (failure : Failure) : Prop where
  /-- The failure is the fault in the text. -/
  | lexical (isLexical : failure.cause.isLexical = true) (settled : ending.settle = .error failure)
  /-- The failure is placed at the end, and there the tokens can be completed. -/
  | atEnd (column : failure.column = ending.length)
      (rescue : ¬Unresolved failure.cause tokens → completable tokens)
  /-- The failure is placed at a token; those in front of it can be completed, and with it they
  are beyond help. -/
  | atToken (before : List Token) (token : Token) (after : List Token)
      (split : tokens = before ++ token :: after) (column : failure.column = token.pos)
      (rescue : ¬Unresolved failure.cause before → completable before)
      (doom : hopeless (before ++ [token]))

/-- The reader places its failures well. -/
def BlamesWell {α : Type} (read : Ending → List Token → Except Failure (Reading α)) : Prop :=
  ∀ ending tokens failure, read ending tokens = .error failure →
    Blames (Completable read) (Hopeless read) ending tokens failure

theorem Unresolved.behind {cause : Cause} {before : List Token} (front : List Token)
    (unresolved : Unresolved cause before) : Unresolved cause (front ++ before) := by
  obtain ⟨missing, last, isLast, noRelation⟩ := unresolved
  refine ⟨missing, last, ?_, noRelation⟩
  rw [List.getLast?_append, isLast]
  rfl

theorem isLexical_of_settle {ending : Ending} {failure : Failure}
    (settled : ending.settle = .error failure) : failure.cause.isLexical = true := by
  obtain ⟨fault, length⟩ := ending
  cases fault <;> cases settled
  rfl

namespace Blames

variable {completable hopeless completable' hopeless' : List Token → Prop} {ending : Ending}
  {tokens : List Token} {failure : Failure}

/-- Other tokens in front change nothing, as long as the tokens behind them have the same
prospects. -/
theorem behind (front : List Token) (blames : Blames completable hopeless ending tokens failure)
    (rescued : ∀ before, before <+: tokens → completable before → completable' (front ++ before))
    (doomed : ∀ before, before <+: tokens → before ≠ [] → hopeless before →
      hopeless' (front ++ before)) :
    Blames completable' hopeless' ending (front ++ tokens) failure := by
  cases blames with
  | lexical isLexical settled => exact .lexical isLexical settled
  | atEnd column rescue =>
      refine .atEnd column fun resolved => rescued tokens (List.prefix_refl _) (rescue ?_)
      exact fun unresolved => resolved (unresolved.behind front)
  | atToken before token after split column rescue doom =>
      refine .atToken (front ++ before) token after ?_ column ?_ ?_
      · rw [split, List.append_assoc]
      · intro resolved
        refine rescued before ⟨token :: after, split.symm⟩ (rescue ?_)
        exact fun unresolved => resolved (unresolved.behind front)
      · have before_token : before ++ [token] <+: tokens := ⟨after, by simp [split]⟩
        rw [List.append_assoc]
        exact doomed _ before_token (by simp) doom

/-- A refusal at the first token. -/
theorem first {token : Token} {rest : List Token} (column : failure.column = token.pos)
    (rescue : completable []) (doom : hopeless [token]) :
    Blames completable hopeless ending (token :: rest) failure :=
  .atToken [] token rest rfl column (fun _ => rescue) doom

/-- A refusal at the end of the tokens. -/
theorem refuse {cause : Cause} (rescue : ¬Unresolved cause tokens → completable tokens)
    (failed : ending.refuse cause = failure) :
    Blames completable hopeless ending tokens failure := by
  subst failed
  obtain ⟨fault, length⟩ := ending
  cases fault with
  | some fault => exact .lexical rfl rfl
  | none => exact .atEnd rfl rescue

/-- A fault behind the last token. -/
theorem settle {α : Type} {f : Unit → α} (failed : ending.settle.map f = .error failure) :
    Blames completable hopeless ending tokens failure := by
  obtain ⟨fault, length⟩ := ending
  cases fault with
  | some fault =>
      cases failed
      exact .lexical rfl rfl
  | none => cases failed

end Blames

section Readers

variable {α β : Type} {outer : Ending → List Token → Except Failure (Reading α)}
  {inner : Ending → List Token → Except Failure (Reading β)} {ending : Ending}
  {tokens : List Token} {failure : Failure}

/-- A reader that takes some tokens in front and leaves the others to another reader places its
failures like that one.  The first of the others may decide that it is left to. -/
theorem Blames.lift (front : List Token)
    (blames : Blames (Completable inner) (Hopeless inner) ending tokens failure)
    (onward : ∀ ending more reading, inner ending more = .ok reading →
      ∃ reading', outer ending (front ++ more) = .ok reading' ∧ reading'.rest = reading.rest)
    (back : ∀ ending more reading, more.head? = tokens.head? →
      outer ending (front ++ more) = .ok reading → ∃ reading', inner ending more = .ok reading') :
    Blames (Completable outer) (Hopeless outer) ending (front ++ tokens) failure := by
  apply blames.behind front
  · rintro before - ⟨fillers, completed⟩
    refine ⟨fillers, fun ending whole => ?_⟩
    obtain ⟨reading, read, nothing⟩ := completed ending whole
    obtain ⟨reading', read', same⟩ := onward _ _ _ read
    exact ⟨reading', by rw [List.append_assoc, read'], same.trans nothing⟩
  · rintro before ⟨after, split⟩ nonempty doomed ending more reading read
    rw [List.append_assoc] at read
    have sameHead : (before ++ more).head? = tokens.head? := by
      obtain ⟨first, others, rfl⟩ := List.exists_cons_of_ne_nil nonempty
      rw [← split]
      rfl
    obtain ⟨reading', read'⟩ := back _ _ _ sameHead read
    exact doomed _ _ _ read'

/-- The case where the other reader's outcome is only given another meaning. -/
theorem Blames.lift_map {f : β → α} (front : List Token)
    (blames : Blames (Completable inner) (Hopeless inner) ending tokens failure)
    (step : ∀ ending more, outer ending (front ++ more) =
      (inner ending more).map (Reading.map f)) :
    Blames (Completable outer) (Hopeless outer) ending (front ++ tokens) failure := by
  apply blames.lift front
  · intro ending more reading read
    exact ⟨reading.map f, by rw [step, read]; rfl, rfl⟩
  · intro ending more reading _ read
    rw [step] at read
    obtain ⟨reading', read', -⟩ := exists_of_map_ok read
    exact ⟨reading', read'⟩

/-- The case where the outcome is that of the other reader. -/
theorem Blames.lift_eq {inner : Ending → List Token → Except Failure (Reading α)}
    (front : List Token)
    (blames : Blames (Completable inner) (Hopeless inner) ending tokens failure)
    (step : ∀ ending more, outer ending (front ++ more) = inner ending more) :
    Blames (Completable outer) (Hopeless outer) ending (front ++ tokens) failure := by
  apply blames.lift front
  · exact fun ending more reading read => ⟨reading, (step ending more).trans read, rfl⟩
  · exact fun ending more reading _ read => ⟨reading, (step ending more).symm.trans read⟩

theorem exists_of_map_error {f : β → α} {outcome : Except Failure (Reading β)}
    (failed : outcome.map (Reading.map f) = .error failure) : outcome = .error failure := by
  cases outcome with
  | error failure' => cases failed; rfl
  | ok reading => cases failed

end Readers

/-! ## Closing parentheses -/

theorem readClosing_error {ending : Ending} {required : Bool} {tokens : List Token}
    {failure : Failure} (failed : readClosing ending required tokens = .error failure) :
    ending.settle = .error failure ∨
      required = true ∧
        (tokens = [] ∧ ending.refuse .expectedClosingParen = failure ∨
          ∃ token rest, tokens = token :: rest ∧ token.kind ≠ .closeParen ∧
            failure = .blame token .expectedClosingParen rest) := by
  cases tokens with
  | nil =>
      cases required with
      | true => exact .inr ⟨rfl, .inl ⟨rfl, Except.error.inj failed⟩⟩
      | false =>
          obtain ⟨fault, length⟩ := ending
          cases fault <;> cases failed
          exact .inl rfl
  | cons token rest =>
      simp only [readClosing] at failed
      split at failed
      · cases failed
      · next notClosing =>
          split at failed
          · next isRequired =>
              cases failed
              exact .inr ⟨isRequired, .inr ⟨token, rest, rfl, notClosing, rfl⟩⟩
          · cases failed

theorem readClosing_required_ne_ok {token : Token} (notClosing : token.kind ≠ .closeParen)
    (ending : Ending) (rest : List Token) (reading : Reading Unit) :
    readClosing ending true (token :: rest) ≠ .ok reading := by
  intro read
  simp [readClosing, notClosing] at read

theorem blamesWell_readClosing (required : Bool) :
    BlamesWell fun ending => readClosing ending required := by
  intro ending tokens failure (failed : readClosing ending required tokens = .error failure)
  have completed : Completable (fun ending => readClosing ending required) [] :=
    ⟨[.closing], fun ending _ => ⟨{ value := (), lookedAhead := false, rest := [] }, rfl, rfl⟩⟩
  rcases readClosing_error failed with settled | ⟨rfl, ⟨rfl, refused⟩ |
    ⟨token, rest, rfl, notClosing, rfl⟩⟩
  · exact .lexical (isLexical_of_settle settled) settled
  · exact .refuse (fun _ => completed) refused
  · apply Blames.first rfl completed
    exact fun ending more => readClosing_required_ne_ok notClosing ending more

/-! ## Lists of values -/

theorem blamesWell_readOneOf (field : String) (negated : Bool) :
    BlamesWell fun ending => readOneOf ending field negated := by
  intro ending tokens failure (failed : readOneOf ending field negated tokens = .error failure)
  obtain ⟨taken, split, halted, onward⟩ := ValueList.exists_taken false tokens
  -- A value keeps a comma at the end from taking the parenthesis into the list.
  have completed : Completable (fun ending => readOneOf ending field negated) taken := by
    have left : (ValueList.read false (taken ++ [Filler.token .value, Filler.token .closing])).rest
        = [Filler.token .closing] := by
      rw [onward, ValueList.foldr_extend_rest]
      cases endsInComma false taken <;> rfl
    refine ⟨[.value, .closing], fun ending _ => ⟨?_, ?_, ?_⟩⟩
    · exact
        { value := .oneOf field
            (ValueList.read false (taken ++ [Filler.token .value, Filler.token .closing])).values
            negated
          lookedAhead := false
          rest := [] }
    · simp only [readOneOf, List.map_cons, List.map_nil, left]
      rfl
    · rfl
  rcases readClosing_error (exists_of_map_error failed) with settled | ⟨opened, ended | stopped⟩
  · exact .lexical (isLexical_of_settle settled) settled
  · obtain ⟨nothing, refused⟩ := ended
    rw [nothing, List.append_nil] at split
    rw [split]
    exact .refuse (fun _ => completed) refused
  · obtain ⟨token, rest, left, notClosing, rfl⟩ := stopped
    rw [left] at split halted
    apply Blames.atToken taken token rest split rfl (fun _ => completed)
    intro ending' more reading read
    have ends : ValueList.Ends false taken (token :: more) := halted
    have same := ValueList.read_eq_of_ends onward halted ends
    rw [← split] at same
    rw [List.append_assoc, List.cons_append, List.nil_append] at read
    obtain ⟨closing, closed, -⟩ := exists_of_map_ok read
    rw [same] at closed
    simp only [opened] at closed
    exact readClosing_required_ne_ok notClosing _ _ _ closed

/-! ## Chains of bounds -/

/-- The filler that is a value can be a bound. -/
theorem exists_readBound_value (field : String) :
    ∃ value, ∀ unlexed, readBound field (Filler.token .value) unlexed = .ok value := by
  have isNumber : (Binary64.ofWord? "1").isSome = true := by decide +kernel
  obtain ⟨value, read⟩ := Option.isSome_iff_exists.mp isNumber
  exact ⟨value, fun unlexed => by simp [readBound, Filler.token, read]⟩

theorem readBound_error {field : String} {operand : Token} {unlexed : List Token}
    {failure : Failure} (failed : readBound field operand unlexed = .error failure) :
    failure.column = operand.pos ∧
      ∀ unlexed' value, readBound field operand unlexed' ≠ .ok value := by
  constructor
  · rw [readBound] at failed
    split at failed
    · split at failed <;> cases failed
      rfl
    · cases failed
      rfl
  · intro unlexed' value read
    rw [readBound_ok read unlexed] at failed
    cases failed

theorem blamesWell_readChain (field : String) (bounds : Bounds) :
    BlamesWell fun ending => readChain ending field bounds := by
  intro ending tokens failure (failed : readChain ending field bounds tokens = .error failure)
  obtain ⟨one, readOne⟩ := exists_readBound_value field
  fun_induction readChain ending field bounds tokens with
  | case1 bounds => exact .settle failed
  | case2 => cases failed
  | case3 bounds token rest notPipe noRelation induction =>
      have step : ∀ ending more, readChain ending field bounds (token :: more) =
          readChain ending field bounds more := by
        intro ending more
        simp only [readChain, if_neg notPipe, noRelation]
      exact (induction failed).lift_eq [token] step
  | case4 bounds token notPipe relation isRelation =>
      have completed : Completable (fun ending => readChain ending field bounds) [token] := by
        refine ⟨[.value], fun ending whole => ?_⟩
        simp [readChain, notPipe, isRelation, readOne, settle_of_fault whole, Except.map]
      exact .refuse (fun _ => completed) (Except.error.inj failed)
  | case5 bounds token notPipe relation isRelation operand rest failure' bound =>
      cases failed
      obtain ⟨column, never⟩ := readBound_error bound
      apply Blames.atToken [token] operand rest rfl column
      · refine fun _ => ⟨[.value], fun ending whole => ?_⟩
        simp [readChain, notPipe, isRelation, readOne, settle_of_fault whole, Except.map]
      · intro ending' more reading read
        cases bound' : readBound field operand more with
        | ok value => exact never _ _ bound'
        | error failure' => simp [readChain, notPipe, isRelation, bound'] at read
  | case6 bounds token notPipe relation isRelation operand rest value bound induction =>
      have step : ∀ ending more, readChain ending field bounds (token :: operand :: more) =
          readChain ending field (bounds.set relation value) more := by
        intro ending more
        simp only [readChain, if_neg notPipe, isRelation, readBound_ok bound more]
      exact (induction failed).lift_eq [token, operand] step

theorem blamesWell_readRange (field : String) (relation : Relation) :
    BlamesWell fun ending => readRange ending field relation := by
  intro ending tokens failure (failed : readRange ending field relation tokens = .error failure)
  obtain ⟨one, readOne⟩ := exists_readBound_value field
  have completed : Completable (fun ending => readRange ending field relation) [] := by
    refine ⟨[.value], fun ending whole => ?_⟩
    refine ⟨{ value := .range field (Bounds.empty.set relation one)
              lookedAhead := true
              rest := [] }, ?_, rfl⟩
    simp [readRange, readOne, readChain, settle_of_fault whole, Except.map, bind, Except.bind,
      Reading.map, pure, Except.pure]
  cases tokens with
  | nil => exact .refuse (fun _ => completed) (Except.error.inj failed)
  | cons operand rest =>
      cases bound : readBound field operand rest with
      | error failure' =>
          simp only [readRange, bound, bind, Except.bind] at failed
          cases failed
          obtain ⟨column, never⟩ := readBound_error bound
          apply Blames.first column completed
          intro ending' more reading read
          obtain ⟨_, _, value, -, same, bound', -⟩ := exists_of_readRange read
          cases same
          exact never _ _ bound'
      | ok value =>
          have step : ∀ ending more, readRange ending field relation (operand :: more) =
              (readChain ending field (Bounds.empty.set relation value) more).map
                (Reading.map (.range field)) := by
            intro ending more
            simp only [readRange, readBound_ok bound more, bind, Except.bind]
            cases readChain ending field (Bounds.empty.set relation value) more <;> rfl
          rw [step] at failed
          exact (blamesWell_readChain field _ _ _ _ (exists_of_map_error failed)).lift_map
            [operand] step

/-! ## Clauses about a field -/

theorem blamesWell_readText (field : String) (comparison : Keyword.Comparison) :
    BlamesWell fun ending => readText ending field comparison := by
  intro ending tokens failure (failed : readText ending field comparison tokens = .error failure)
  have completed : Completable (fun ending => readText ending field comparison) [] :=
    ⟨[.value], fun ending _ => ⟨_, rfl, rfl⟩⟩
  cases tokens with
  | nil => exact .refuse (fun _ => completed) (Except.error.inj failed)
  | cons token rest =>
      simp only [readText] at failed
      split at failed
      · cases failed
      · next notText =>
          cases failed
          apply Blames.first rfl completed
          intro ending' more reading read
          simp [readText, notText] at read

theorem blamesWell_testRead (field : String) (negated : Bool) (test : Test) :
    BlamesWell fun ending => test.read ending field negated := by
  cases test with
  | oneOf => exact blamesWell_readOneOf field negated
  | text comparison => exact blamesWell_readText field comparison
  | bounds relation => exact blamesWell_readRange field relation

theorem blamesWell_readTest (field : String) (negated : Bool) :
    BlamesWell fun ending => readTest ending field negated := by
  intro ending tokens failure (failed : readTest ending field negated tokens = .error failure)
  have completed : Completable (fun ending => readTest ending field negated) [] := by
    refine ⟨[.keyword, .value], fun ending whole => ?_⟩
    refine ⟨{ value := .oneOf field ["1"] negated, lookedAhead := true, rest := [] }, ?_, rfl⟩
    have asked : test? "in" = some .oneOf := by decide +kernel
    have settled := settle_of_fault whole
    have isWord : (Filler.token .keyword).kind = .ident := rfl
    have step := readTest_cons (.inl isWord) asked ending field negated [Filler.token .value]
    apply step.trans
    simp [Test.read, readOneOf, ValueList.read, Filler.token, ValueList.push, readClosing,
      TokenKind.endsList, settled, Except.map, Reading.map]
  cases tokens with
  | nil => exact .refuse (fun _ => completed) (Except.error.inj failed)
  | cons keyword rest =>
      by_cases isKeyword : keyword.kind = .ident ∨ keyword.kind = .operator
      · cases asked : test? keyword.value with
        | some test =>
            have step := fun ending => readTest_cons isKeyword asked ending field negated
            rw [step] at failed
            exact (blamesWell_testRead field negated test _ _ _ failed).lift_eq [keyword] step
        | none =>
            rw [readTest, if_pos isKeyword, asked] at failed
            cases failed
            apply Blames.first rfl completed
            intro ending' more reading read
            obtain ⟨_, _, test, same, -, asked', -⟩ := exists_of_readTest read
            cases same
            rw [asked] at asked'
            cases asked'
      · rw [readTest, if_neg isKeyword] at failed
        cases failed
        apply Blames.first rfl completed
        intro ending' more reading read
        obtain ⟨_, _, _, same, isKeyword', -⟩ := exists_of_readTest read
        cases same
        exact isKeyword isKeyword'

/-! ## Requests for software -/

/-- Read entries and the closing parenthesis behind them. -/
def readListed (ending : Ending) (opened : Bool) (current? : Option Software)
    (tokens : List Token) : Except Failure (Reading (List Software)) :=
  match readEntries ending current? tokens with
  | .error failure => .error failure
  | .ok entries =>
      (readClosing ending opened entries.rest).map (Reading.map fun _ => entries.value)

theorem readRequested_eq_readListed {token : Token} (isText : token.isText = true)
    (notReference : isListReference token = false) (ending : Ending) (fuzzy opened : Bool)
    (rest : List Token) :
    readRequested ending fuzzy opened (token :: rest) =
      (readListed ending opened (some (.named token.value)) rest).map
        (Reading.map fun entries => { entries, listReference := none, fuzzy }) := by
  have notComma : token.kind ≠ .comma := by
    intro comma
    simp [Token.isText, comma, TokenKind.isText] at isText
  have named : readEntries ending none (token :: rest) =
      readEntries ending (some (.named token.value)) rest := by
    rw [readEntries_none_cons, if_neg notComma, if_pos isText]
  simp only [readRequested, if_pos isText, notReference, Bool.false_eq_true, if_false, named,
    readListed, bind, Except.bind]
  cases readEntries ending (some (.named token.value)) rest with
  | error failure => rfl
  | ok entries =>
      dsimp only
      cases readClosing ending opened entries.rest <;> rfl

variable (ending : Ending) (opened : Bool)

theorem readListed_comma {token : Token} (comma : token.kind = .comma) (current : Software)
    (rest : List Token) :
    readListed ending opened (some current) (token :: rest) =
      (readListed ending opened none rest).map (Reading.map (current :: ·)) := by
  have goesOn : ¬token.kind.endsList = true := by
    rw [comma]
    exact Bool.false_ne_true
  rw [readListed, readListed, readEntries_some_cons, if_neg goesOn, if_pos comma]
  cases readEntries ending none rest with
  | error failure => rfl
  | ok entries =>
      simp only [Except.map, Reading.map]
      cases readClosing ending opened entries.rest <;> rfl

theorem readListed_none_comma {token : Token} (comma : token.kind = .comma)
    (rest : List Token) :
    readListed ending opened none (token :: rest) = readListed ending opened none rest := by
  rw [readListed, readEntries_none_cons, if_pos comma]
  rfl

theorem readListed_none_text {token : Token} (notComma : token.kind ≠ .comma)
    (isText : token.isText = true) (rest : List Token) :
    readListed ending opened none (token :: rest) =
      readListed ending opened (some (.named token.value)) rest := by
  rw [readListed, readEntries_none_cons, if_neg notComma, if_pos isText]
  rfl

theorem readListed_constraint {relation version : Token} {constraint : Constraint}
    {unlexed : List Token} (goesOn : relation.kind.endsList = false)
    (notComma : relation.kind ≠ .comma)
    (made : readConstraint relation version unlexed = .ok constraint) (current : Software)
    (rest : List Token) :
    readListed ending opened (some current) (relation :: version :: rest) =
      readListed ending opened
        (some (current.withVersion constraint.relation constraint.version)) rest := by
  simp only [readListed, readEntries_some_cons, goesOn, Bool.false_eq_true, if_false, notComma,
    readConstraint_ok made rest]

theorem readListed_closing (current : Software) :
    readListed ending opened (some current) [Filler.token .closing] =
      .ok { value := [current], lookedAhead := false, rest := [] } := by
  rfl

/-- A version that is there and a relation that is none. -/
theorem readConstraint_error {relation version : Token} {unlexed : List Token}
    {failure : Failure} (failed : readConstraint relation version unlexed = .error failure) :
    version.isText = true ∧ Keyword.relation? relation.value = none ∧
        failure.column = relation.pos ∨
      version.isText = false ∧ failure = .blame version .expectedVersion unlexed := by
  rw [readConstraint] at failed
  split at failed
  · next isText =>
      split at failed
      · cases failed
      · next noRelation =>
          cases failed
          exact .inl ⟨isText, noRelation, rfl⟩
  · next notText =>
      cases failed
      exact .inr ⟨by simpa using notText, rfl⟩

/-- An entry goes on behind a token that ends nothing only if a version follows it. -/
theorem readListed_relation_ok {relation : Token} {current : Software} {more : List Token}
    {reading : Reading (List Software)} (goesOn : ¬relation.kind.endsList = true)
    (notComma : relation.kind ≠ .comma)
    (read : readListed ending opened (some current) (relation :: more) = .ok reading) :
    ∃ version rest, more = version :: rest ∧ version.isText = true ∧
      (Keyword.relation? relation.value).isSome = true := by
  rw [readListed, readEntries_some_cons, if_neg goesOn, if_neg notComma] at read
  cases more with
  | nil => cases read
  | cons version rest =>
      cases made : readConstraint relation version rest with
      | error failure => simp only [made] at read; cases read
      | ok constraint =>
          obtain ⟨isText, isRelation, -⟩ := demand_of_readConstraint made
          exact ⟨version, rest, rfl, isText, by simp [isRelation]⟩

/-- Behind a relation a version and a parenthesis complete the entries. -/
theorem completable_readListed_relation {relation : Token} {current : Software}
    (goesOn : ¬relation.kind.endsList = true) (notComma : relation.kind ≠ .comma)
    (resolved : ¬Unresolved .expectedVersion [relation]) :
    Completable (fun ending => readListed ending opened (some current)) [relation] := by
  cases isRelation : Keyword.relation? relation.value with
  | none => exact absurd ⟨rfl, relation, rfl, isRelation⟩ resolved
  | some kind =>
      refine ⟨[.value, .closing], fun ending _ => ?_⟩
      have made : readConstraint relation (Filler.token .value) [] =
          .ok { relation := kind, version := "1" } := by
        simp [readConstraint, Filler.token, Token.isText, TokenKind.isText, isRelation]
      have step := readListed_constraint ending opened (by simpa using goesOn) notComma made
        current [Filler.token .closing]
      exact ⟨_, step.trans (readListed_closing ending opened _), rfl⟩

theorem completable_readListed_entry (current : Software) :
    Completable (fun ending => readListed ending opened (some current)) [] :=
  ⟨[.closing], fun ending _ => ⟨_, readListed_closing ending opened current, rfl⟩⟩

section Entries

variable {ending opened} {current : Software} {failure : Failure}

theorem blames_readListed_nil
    (failed : readListed ending opened (some current) [] = .error failure) :
    Blames (Completable fun ending => readListed ending opened (some current))
      (Hopeless fun ending => readListed ending opened (some current)) ending [] failure := by
  cases fault : ending.fault with
  | some fault' =>
      have settled : ending.settle.map (fun _ : Unit => ()) = .error failure := by
        simpa [readListed, readEntries, Ending.settle, fault, Except.map] using failed
      exact .settle settled
  | none =>
      simp only [readListed, readEntries, settle_of_fault fault, Except.map] at failed
      rcases readClosing_error (exists_of_map_error failed) with settled | ⟨-, ⟨-, refused⟩ |
        ⟨token, rest, same, -⟩⟩
      · exact .lexical (isLexical_of_settle settled) settled
      · exact .refuse (fun _ => completable_readListed_entry opened current) refused
      · cases same

theorem blames_readListed_ends {token : Token} {rest : List Token}
    (ends : token.kind.endsList = true)
    (failed : readListed ending opened (some current) (token :: rest) = .error failure) :
    Blames (Completable fun ending => readListed ending opened (some current))
      (Hopeless fun ending => readListed ending opened (some current)) ending (token :: rest)
      failure := by
  have step : ∀ ending more, readListed ending opened (some current) (token :: more) =
      (readClosing ending opened (token :: more)).map (Reading.map fun _ => [current]) := by
    intro ending more
    rw [readListed, readEntries_some_cons, if_pos ends]
  rw [step] at failed
  rcases readClosing_error (exists_of_map_error failed) with settled |
    ⟨isOpened, ⟨same, -⟩ | ⟨_, _, same, notClosing, rfl⟩⟩
  · exact .lexical (isLexical_of_settle settled) settled
  · cases same
  · cases same
    apply Blames.first rfl (completable_readListed_entry opened current)
    intro ending' more reading read
    obtain ⟨closing, closed, -⟩ := exists_of_map_ok ((step ending' more).symm.trans read)
    rw [isOpened] at closed
    exact readClosing_required_ne_ok notClosing _ _ _ closed

/-- A relation that is none is to blame itself, unless the version is missing behind it. -/
theorem blames_readListed_constraint {relation version : Token} {rest : List Token}
    (goesOn : ¬relation.kind.endsList = true) (notComma : relation.kind ≠ .comma)
    (refused : readConstraint relation version rest = .error failure) :
    Blames (Completable fun ending => readListed ending opened (some current))
      (Hopeless fun ending => readListed ending opened (some current)) ending
      (relation :: version :: rest) failure := by
  rcases readConstraint_error refused with ⟨-, noRelation, column⟩ | ⟨notText, rfl⟩
  · apply Blames.first column (completable_readListed_entry opened current)
    intro ending' more reading read
    obtain ⟨_, _, -, -, isRelation⟩ := readListed_relation_ok ending' opened goesOn notComma read
    rw [noRelation] at isRelation
    cases isRelation
  · refine .atToken [relation] version rest rfl rfl
      (completable_readListed_relation opened goesOn notComma) ?_
    intro ending' more reading read
    obtain ⟨_, _, same, isText, -⟩ := readListed_relation_ok ending' opened goesOn notComma read
    cases same
    rw [notText] at isText
    cases isText

end Entries

theorem blamesWell_readListed (current? : Option Software) :
    BlamesWell fun ending => readListed ending opened current? := by
  intro ending tokens failure
    (failed : readListed ending opened current? tokens = .error failure)
  have namable : Completable (fun ending => readListed ending opened none) [] :=
    ⟨[.value, .closing], fun ending _ => ⟨_, rfl, rfl⟩⟩
  fun_induction readEntries ending current? tokens with
  | case1 => exact .refuse (fun _ => namable) (Except.error.inj failed)
  | case2 current => exact blames_readListed_nil failed
  | case3 token rest isComma induction =>
      have step := fun ending => readListed_none_comma ending opened isComma
      rw [step] at failed
      exact (induction failed).lift_eq [token] step
  | case4 token rest notComma isText induction =>
      have step := fun ending => readListed_none_text ending opened notComma isText
      rw [step] at failed
      exact (induction failed).lift_eq [token] step
  | case5 token rest notComma notText =>
      rw [readListed, readEntries_none_cons, if_neg notComma, if_neg notText] at failed
      cases failed
      apply Blames.first rfl namable
      intro ending' more reading
        (read : readListed ending' opened none (token :: more) = .ok reading)
      rw [readListed, readEntries_none_cons, if_neg notComma, if_neg notText] at read
      cases read
  | case6 token rest current ends => exact blames_readListed_ends ends failed
  | case7 token rest current goesOn isComma induction =>
      have step := fun ending => readListed_comma ending opened isComma current
      rw [step] at failed
      exact (induction (exists_of_map_error failed)).lift_map [token] step
  | case8 token current goesOn notComma =>
      rw [readListed, readEntries_some_cons, if_neg goesOn, if_neg notComma] at failed
      exact .refuse (completable_readListed_relation opened goesOn notComma)
        (Except.error.inj failed)
  | case9 token current goesOn notComma version rest failure' refused =>
      rw [readListed, readEntries_some_cons, if_neg goesOn, if_neg notComma] at failed
      simp only [refused] at failed
      cases failed
      exact blames_readListed_constraint goesOn notComma refused
  | case10 token current goesOn notComma version rest constraint made induction =>
      have step := fun ending => readListed_constraint ending opened (by simpa using goesOn)
        notComma made current
      rw [step] at failed
      exact (induction failed).lift_eq [token, version] step

theorem blamesWell_readRequested (fuzzy : Bool) :
    BlamesWell fun ending => readRequested ending fuzzy opened := by
  intro ending tokens failure (failed : readRequested ending fuzzy opened tokens = .error failure)
  have completed : Completable (fun ending => readRequested ending fuzzy opened) [] :=
    ⟨[.value, .closing], fun ending _ => ⟨_, rfl, rfl⟩⟩
  cases tokens with
  | nil => exact .refuse (fun _ => completed) (Except.error.inj failed)
  | cons token rest =>
      by_cases isText : token.isText = true
      · cases isReference : isListReference token with
        | true =>
            have step : ∀ ending more, readRequested ending fuzzy opened (token :: more) =
                (readClosing ending opened more).map (Reading.map fun _ =>
                  { entries := [], listReference := some token.value, fuzzy }) := by
              intro ending more
              rw [readRequested, if_pos isText, if_pos isReference]
            rw [step] at failed
            exact (blamesWell_readClosing opened _ _ _ (exists_of_map_error failed)).lift_map
              [token] step
        | false =>
            have step := fun ending => readRequested_eq_readListed isText isReference ending fuzzy
              opened
            rw [step] at failed
            exact (blamesWell_readListed opened _ _ _ _ (exists_of_map_error failed)).lift_map
              [token] step
      · rw [readRequested, if_neg isText] at failed
        cases failed
        apply Blames.first rfl completed
        intro ending' more reading read
        obtain ⟨_, _, same, isText', -⟩ := exists_of_readRequested read
        cases same
        exact isText isText'

/-- Behind a comparison keyword a refusal is that of what is requested there. -/
theorem blames_readSoftware_requested {ending : Ending} {keyword : Token} {rest : List Token}
    {failure : Failure} {comparison : Keyword.Comparison}
    (isKeyword : (keyword.isText || keyword.kind = .operator) = true)
    (compares : Keyword.comparison? keyword.value = some comparison)
    (failed : readSoftware ending (keyword :: rest) = .error failure) :
    Blames (Completable readSoftware) (Hopeless readSoftware) ending (keyword :: rest)
      failure := by
  have equation := readSoftware_of_comparison isKeyword compares
  rw [equation] at failed
  rcases readOpening_cases rest with ⟨paren, rest', rfl, opens, opened⟩ | ⟨opened, head⟩
  · rw [opened] at failed
    have step : ∀ ending more, readSoftware ending ([keyword, paren] ++ more) =
        (readRequested ending (comparison == .matching) true more).map
          (Reading.map .software) := by
      intro ending more
      rw [List.cons_append, equation]
      simp [readOpening, opens]
    exact (blamesWell_readRequested true _ _ _ _ (exists_of_map_error failed)).lift_map
      [keyword, paren] step
  · rw [opened] at failed
    refine (blamesWell_readRequested false _ _ _ _ (exists_of_map_error failed)).lift
      [keyword] ?_ ?_
    · intro ending more reading read
      obtain ⟨token, others, rfl, isText, -⟩ := exists_of_readRequested read
      refine ⟨reading.map .software, ?_, rfl⟩
      rw [List.cons_append, List.nil_append, equation, readOpening_of_text isText, read]
      rfl
    · intro ending more reading sameHead read
      have unopened : readOpening more = (false, more) := by
        cases more with
        | nil => rfl
        | cons token more =>
            have goesOn := head token (by rw [← sameHead]; rfl)
            simp [readOpening, goesOn]
      rw [List.cons_append, List.nil_append, equation, unopened] at read
      obtain ⟨reading', read', -⟩ := exists_of_map_ok read
      exact ⟨reading', read'⟩

theorem blamesWell_readSoftware : BlamesWell readSoftware := by
  intro ending tokens failure failed
  have completed : Completable readSoftware [] := by
    have compares : Keyword.comparison? "in" = some .equal := by decide +kernel
    have isKeyword : ((Filler.token .keyword).isText ||
        (Filler.token .keyword).kind = .operator) = true := rfl
    have step := fun ending => readSoftware_of_comparison isKeyword compares ending
      [Filler.token .value, Filler.token .closing]
    exact ⟨[.keyword, .value, .closing], fun ending _ => ⟨_, step ending, rfl⟩⟩
  cases tokens with
  | nil => exact .refuse (fun _ => completed) (Except.error.inj failed)
  | cons keyword rest =>
      by_cases isKeyword : (keyword.isText || keyword.kind = .operator) = true
      · cases compares : Keyword.comparison? keyword.value with
        | some comparison => exact blames_readSoftware_requested isKeyword compares failed
        | none =>
            rw [readSoftware, if_pos isKeyword, compares] at failed
            cases failed
            apply Blames.first rfl completed
            intro ending' more reading read
            obtain ⟨_, _, _, _, same, -, compares', -⟩ := exists_of_readSoftware read
            cases same
            rw [compares] at compares'
            cases compares'
      · rw [readSoftware, if_neg isKeyword] at failed
        cases failed
        apply Blames.first rfl completed
        intro ending' more reading read
        obtain ⟨_, _, _, _, same, isKeyword', -⟩ := exists_of_readSoftware read
        cases same
        exact isKeyword isKeyword'

/-! ## Clauses -/

variable (settings : Settings)

/-- The negating keyword asks for no test itself. -/
theorem test?_of_isNot {word : String} (negates : Keyword.isNot word = true) :
    test? word = none := by
  have spelled : Keyword.lower word = "not" := by simpa [Keyword.isNot] using negates
  have notIn : Keyword.isIn word = false := by simp [Keyword.isIn, spelled]
  have noComparison : Keyword.comparison? word = none := by simp [Keyword.comparison?, spelled]
  have noRelation : Keyword.relation? word = none := by simp [Keyword.relation?, spelled]
  simp [test?, notIn, noComparison, noRelation]

theorem readNegation_of_readTest {field : String} {negated : Bool} {tokens : List Token}
    {reading : Reading Clause} (read : readTest ending field negated tokens = .ok reading) :
    readNegation tokens = (false, tokens) := by
  obtain ⟨keyword, rest, test, rfl, -, asked, -⟩ := exists_of_readTest read
  have notNegation : ¬(keyword.kind = .ident ∧ Keyword.isNot keyword.value = true) := by
    rintro ⟨-, negates⟩
    rw [test?_of_isNot negates] at asked
    cases asked
  rw [readNegation, if_neg notNegation]

theorem blamesWell_readNegatedTest (field : String) :
    BlamesWell fun ending tokens =>
      readTest ending field (readNegation tokens).1 (readNegation tokens).2 := by
  intro ending tokens failure
    (failed : readTest ending field (readNegation tokens).1 (readNegation tokens).2 =
      .error failure)
  rcases readNegation_cases tokens with ⟨negation, rest, rfl, negates⟩ | unnegated
  · rw [negates] at failed
    apply (blamesWell_readTest field true _ _ _ failed).lift [negation]
    · intro ending more reading read
      exact ⟨reading, by simpa [negates] using read, rfl⟩
    · intro ending more reading _ read
      exact ⟨reading, by simpa [negates] using read⟩
  · rw [unnegated tokens rfl] at failed
    apply (blamesWell_readTest field false _ _ _ failed).lift []
    · intro ending more reading read
      have taken := readNegation_of_readTest ending read
      exact ⟨reading, by simpa [taken] using read, rfl⟩
    · intro ending more reading sameHead read
      exact ⟨reading, by simpa [unnegated more sameHead] using read⟩

theorem blamesWell_readOperand (clause : String → Clause) :
    BlamesWell fun ending => readOperand ending clause := by
  intro ending tokens failure (failed : readOperand ending clause tokens = .error failure)
  cases tokens with
  | nil => exact .settle failed
  | cons token rest => cases failed

/-- A word that no clause can start with is refused itself; others leave it to what stands behind
them. -/
theorem blames_of_readWord {ending : Ending} {word : Token} {rest : List Token}
    {failure : Failure} (failed : readWord settings ending word rest = .error failure) :
    failure.column = word.pos ∧
        (∀ ending more reading, readWord settings ending word more ≠ .ok reading) ∨
      Blames (Completable fun ending => readWord settings ending word)
        (Hopeless fun ending => readWord settings ending word) ending rest failure := by
  by_cases isReserved : word.value ∈ Keyword.reserved
  · right
    simp only [Keyword.reserved, List.mem_cons, List.not_mem_nil, or_false] at isReserved
    rcases isReserved with isFilter | isGroup | isSoftware
    · have step := readWord_filter isFilter settings
      rw [step] at failed
      exact (blamesWell_readOperand .filter _ _ _ failed).lift_eq [] step
    · have step := readWord_group isGroup settings
      rw [step] at failed
      exact (blamesWell_readOperand .group _ _ _ failed).lift_eq [] step
    · have step := readWord_software isSoftware settings
      rw [step] at failed
      exact (blamesWell_readSoftware _ _ _ (exists_of_map_error failed)).lift_map [] step
  · have step := readWord_field isReserved settings
    by_cases admitted : settings.admits word.value = true
    · right
      simp only [if_pos admitted] at step
      rw [step] at failed
      exact (blamesWell_readNegatedTest word.value _ _ _
        (exists_of_map_error failed)).lift_map [] step
    · left
      simp only [if_neg admitted] at step
      rw [step] at failed
      cases failed
      refine ⟨rfl, ?_⟩
      intro ending' more reading read
      rw [step] at read
      cases read

/-- A clause is refused for its first token, whatever stands behind it, or for a later one. -/
theorem blames_of_readClause {ending : Ending} {token : Token} {rest : List Token}
    {failure : Failure} (failed : readClause settings ending token rest = .error failure) :
    failure.column = token.pos ∧
        (∀ ending more reading, readClause settings ending token more ≠ .ok reading) ∨
      Blames (Completable fun ending => readClause settings ending token)
        (Hopeless fun ending => readClause settings ending token) ending rest failure := by
  cases kind : token.kind with
  | ident =>
      have isWord : ∀ ending,
          readClause settings ending token = readWord settings ending token := by
        intro ending
        funext more
        rw [readClause, kind]
      simp only [isWord] at failed ⊢
      exact blames_of_readWord settings failed
  | string =>
      rw [readClause, kind] at failed
      cases failed
  | pipe | openParen | closeParen | comma | operator =>
      left
      rw [readClause, kind] at failed
      cases failed
      refine ⟨rfl, ?_⟩
      intro ending' more reading read
      rw [readClause, kind] at read
      cases read

/-! ## Runs -/

/-- With some fillers behind them these tokens are a query.  No tokens need no fillers, so they do
not spoil the clauses in front either. -/
def RunCompletable (tokens : List Token) : Prop :=
  ∃ fillers : List Filler, (tokens = [] → fillers = []) ∧ ∀ ending, ending.fault = none →
    ∃ clauses,
      (readClauses settings ending (tokens ++ fillers.map Filler.token)).outcome = .ok clauses

/-- Whatever stands behind these tokens, they are no query. -/
def RunHopeless (tokens : List Token) : Prop :=
  ∀ ending more clauses, (readClauses settings ending (tokens ++ more)).outcome ≠ .ok clauses

variable {settings}

theorem runCompletable_nil : RunCompletable settings [] := by
  refine ⟨[], fun _ => rfl, fun ending whole => ⟨[], ?_⟩⟩
  simp [readClauses, settle_of_fault whole, Run.stop, Run.outcome]

/-- A clause that can be completed is a query when it is. -/
theorem runCompletable_cons {token : Token} {before : List Token} (notPipe : token.kind ≠ .pipe)
    (completed : Completable (fun ending => readClause settings ending token) before) :
    RunCompletable settings (token :: before) := by
  obtain ⟨fillers, completed⟩ := completed
  refine ⟨fillers, (nomatch ·), fun ending whole => ?_⟩
  obtain ⟨reading, read, nothing⟩ := completed ending whole
  have ended : (readClauses settings ending []).outcome = .ok [] := by
    simp [readClauses, settle_of_fault whole, Run.stop, Run.outcome]
  rw [List.cons_append, readClauses_of_ok notPipe read, outcome_push, nothing, ended]
  exact ⟨_, rfl⟩

/-- A clause that no token can save is no query. -/
theorem runHopeless_cons {token : Token} {before : List Token} (notPipe : token.kind ≠ .pipe)
    (doomed : Hopeless (fun ending => readClause settings ending token) before) :
    RunHopeless settings (token :: before) := by
  intro ending more clauses outcome
  obtain ⟨reading, -, read, -⟩ := exists_of_outcome_cons notPipe outcome
  exact doomed ending more reading read

/-- Behind a pipe a run goes on as before. -/
theorem blames_readClauses_pipe {ending : Ending} {token : Token} {rest : List Token}
    {failure : Failure} (isPipe : token.kind = .pipe)
    (blames : Blames (RunCompletable settings) (RunHopeless settings) ending rest failure) :
    Blames (RunCompletable settings) (RunHopeless settings) ending (token :: rest) failure := by
  have step : ∀ ending more, readClauses settings ending (token :: more) =
      readClauses settings ending more :=
    fun ending more => readClauses_pipe settings ending more isPipe
  apply blames.behind [token]
  · rintro before - ⟨fillers, -, completed⟩
    refine ⟨fillers, (nomatch ·), fun ending whole => ?_⟩
    obtain ⟨clauses, outcome⟩ := completed ending whole
    exact ⟨clauses, (congrArg Run.outcome (step ending _)).trans outcome⟩
  · intro before _ _ doomed ending more clauses outcome
    apply doomed ending more clauses
    exact (congrArg Run.outcome (step ending _)).symm.trans outcome

/-- Behind a clause a run goes on, since the clause ends there as well when only a part of the
other tokens comes next. -/
theorem blames_readClauses_clause {ending : Ending} {token : Token} {rest : List Token}
    {failure : Failure} {reading : Reading (Option Clause)} (notPipe : token.kind ≠ .pipe)
    (read : readClause settings ending token rest = .ok reading)
    (blames : Blames (RunCompletable settings) (RunHopeless settings) ending reading.rest
      failure) :
    Blames (RunCompletable settings) (RunHopeless settings) ending (token :: rest) failure := by
  obtain ⟨taken, stops, took, -⟩ := exists_took_of_readClause read
  -- A nonempty part of the other tokens starts with the one that stopped this clause.
  have halts : ∀ ending before more, before <+: reading.rest → before ≠ [] →
      Halts stops ending (before ++ more) := by
    rintro ending before more ⟨after, split⟩ nonempty
    obtain ⟨first, others, rfl⟩ := List.exists_cons_of_ne_nil nonempty
    exact took.halted first (by rw [← split]; rfl)
  rw [took.split]
  apply blames.behind (token :: taken)
  · rintro before within ⟨fillers, alone, completed⟩
    refine ⟨fillers, (nomatch ·), fun ending whole => ?_⟩
    obtain ⟨clauses, outcome⟩ := completed ending whole
    have halted : Halts stops ending (before ++ fillers.map Filler.token) := by
      cases before with
      | nil => rw [alone rfl]; exact whole
      | cons first others => exact halts ending _ _ within (List.cons_ne_nil _ _)
    have again := took.again ending _ halted
    rw [← List.append_assoc] at again
    rw [List.cons_append, List.cons_append, readClauses_of_ok notPipe again, outcome_push,
      outcome]
    exact ⟨_, rfl⟩
  · intro before within nonempty doomed ending more clauses outcome
    have again := took.again ending _ (halts ending before more within nonempty)
    rw [List.cons_append, List.cons_append, List.append_assoc,
      readClauses_of_ok notPipe again] at outcome
    obtain ⟨later, inner, -⟩ := exists_of_outcome_push outcome
    exact doomed ending more later inner

/-- A run that fails blames the first token that spoils the others. -/
theorem blames_of_readClauses {ending : Ending} {tokens : List Token} {failure : Failure}
    (failed : (readClauses settings ending tokens).outcome = .error failure) :
    Blames (RunCompletable settings) (RunHopeless settings) ending tokens failure := by
  fun_induction readClauses settings ending tokens with
  | case1 => cases failed
  | case2 failure' settled =>
      cases failed
      have mapped : ending.settle.map (fun _ => ()) = .error failure := by
        rw [settled]
        rfl
      exact .settle mapped
  | case3 token rest isPipe induction => exact blames_readClauses_pipe isPipe (induction failed)
  | case4 token rest notPipe reading read induction =>
      exact blames_readClauses_clause notPipe read (induction (outcome_of_push_error failed))
  | case5 token rest notPipe failure' read =>
      cases failed
      rcases blames_of_readClause settings read with ⟨column, never⟩ | blames
      · apply Blames.first column runCompletable_nil
        exact runHopeless_cons notPipe fun ending more reading => never ending more reading
      · apply blames.behind [token]
        · exact fun before _ completed => runCompletable_cons notPipe completed
        · exact fun before _ _ doomed => runHopeless_cons notPipe doomed

end Query
end PipeQuery

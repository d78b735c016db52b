import PipeQuery.Query.Run

/-!
# Readers look one token ahead

A reader that succeeds takes some tokens and looks at most at the one behind them.  So it does the
same in front of other tokens, provided they start with one that stops it too, or end there.  The
main statement here is `Query.exists_took_of_readClause`, which also says when a pipe stops a
clause: always, but behind a comma and behind a filter or a grouping without its operand.
-/

namespace PipeQuery
namespace Query

/-- A reader may stop in front of these tokens: the query ends there, or a token comes next that is
of a kind to stop it. -/
def Halts (stops : TokenKind → Bool) (ending : Ending) : List Token → Prop
  | [] => ending.fault = none
  | token :: _ => stops token.kind = true

/-- A reader that more kinds stop may stop there as well. -/
theorem Halts.mono {fewer stops : TokenKind → Bool} {ending : Ending} {more : List Token}
    (halts : Halts fewer ending more) (below : ∀ kind, fewer kind = true → stops kind = true) :
    Halts stops ending more := by
  cases more with
  | nil => exact halts
  | cons token more => exact below _ halts

/-- A reader has taken `taken` from some tokens, and takes it from others as well, as long as they
go on with a token that stops it or end there. -/
structure Took {α : Type} (read : Ending → List Token → Except Failure (Reading α))
    (tokens : List Token) (reading : Reading α) (taken : List Token)
    (stops : TokenKind → Bool) : Prop where
  /-- The tokens are those taken and those left. -/
  split : tokens = taken ++ reading.rest
  /-- The first token left stops the reader. -/
  halted : ∀ token ∈ reading.rest.head?, stops token.kind = true
  /-- Any other token that stops the reader does as well. -/
  again : ∀ ending more, Halts stops ending more →
    read ending (taken ++ more) = .ok { reading with rest := more }

/-- Kinds that stop a clause which ends at a pipe only. -/
def isPipe (kind : TokenKind) : Bool :=
  kind == .pipe

@[simp]
theorem isPipe_pipe : isPipe .pipe = true := rfl

theorem isPipe_iff {kind : TokenKind} : isPipe kind = true ↔ kind = .pipe := by
  simp [isPipe]

namespace Took

variable {α β : Type} {read : Ending → List Token → Except Failure (Reading α)}
  {inner : Ending → List Token → Except Failure (Reading β)} {tokens taken : List Token}
  {stops : TokenKind → Bool}

/-- A reader that takes some tokens in front and leaves the others to another reader. -/
theorem behind {reading : Reading β} {f : β → α} (front : List Token)
    (took : Took inner tokens reading taken stops)
    (step : ∀ ending more reading, inner ending (taken ++ more) = .ok reading →
      read ending (front ++ (taken ++ more)) = .ok (reading.map f)) :
    Took read (front ++ tokens) (reading.map f) (front ++ taken) stops where
  split := by
    rw [List.append_assoc]
    exact congrArg (front ++ ·) took.split
  halted := took.halted
  again ending more halts := by
    rw [List.append_assoc]
    exact step _ _ _ (took.again ending more halts)

end Took

/-- Behind these tokens a pipe stops the reader, unless the last of them is a comma. -/
def StoppedByPipe (taken : List Token) (stops : TokenKind → Bool) : Prop :=
  stops .pipe = true ∨ ∃ last ∈ taken.getLast?, last.kind = .comma

theorem StoppedByPipe.cons {taken : List Token} {stops : TokenKind → Bool} (token : Token)
    (stopped : StoppedByPipe taken stops) : StoppedByPipe (token :: taken) stops := by
  rcases stopped with stopped | ⟨last, isLast, comma⟩
  · exact .inl stopped
  · refine .inr ⟨last, ?_, comma⟩
    rw [List.getLast?_cons, isLast]
    rfl

theorem settle_of_fault {ending : Ending} (none : ending.fault = none) :
    ending.settle = .ok () := by
  simp [Ending.settle, none]

theorem eq_of_settle_map {α : Type} {ending : Ending} {value reading : Reading α}
    (settled : (ending.settle.map fun _ => value) = .ok reading) : value = reading := by
  rw [Ending.settle] at settled
  split at settled
  · cases settled
  · exact Except.ok.inj settled

/-- A closing parenthesis is taken, or it is not required and does not come next. -/
theorem readClosing_cases {ending : Ending} {required : Bool} {tokens : List Token}
    {reading : Reading Unit} (read : readClosing ending required tokens = .ok reading) :
    (∃ token rest, tokens = token :: rest ∧ token.kind = .closeParen ∧
        reading = { value := (), lookedAhead := false, rest }) ∨
      required = false ∧ (∀ token ∈ tokens.head?, token.kind ≠ .closeParen) ∧
        reading = { value := (), lookedAhead := true, rest := tokens } := by
  unfold readClosing at read
  split at read
  · split at read
    · cases read
    · next notRequired =>
        obtain rfl := eq_of_settle_map read
        exact .inr ⟨by simpa using notRequired, by simp, rfl⟩
  · next token rest =>
      split at read
      · next closes =>
          cases read
          exact .inl ⟨token, rest, rfl, closes, rfl⟩
      · next goesOn =>
          split at read
          · cases read
          · next notRequired =>
              cases read
              exact .inr ⟨by simpa using notRequired, by simpa using goesOn, rfl⟩

theorem readClosing_closeParen {token : Token} (closes : token.kind = .closeParen)
    (ending : Ending) (required : Bool) (rest : List Token) :
    readClosing ending required (token :: rest) =
      .ok { value := (), lookedAhead := false, rest } := by
  simp [readClosing, closes]

theorem readClosing_halts {ending : Ending} {more : List Token}
    (halts : Halts isPipe ending more) :
    readClosing ending false more = .ok { value := (), lookedAhead := true, rest := more } := by
  cases more with
  | nil => simp [readClosing, settle_of_fault halts, Except.map]
  | cons token more => simp [readClosing, isPipe_iff.mp halts]

/-! ## Lists of values -/

/-- The last of the tokens is a comma; without any token, `afterComma` says so. -/
def endsInComma (afterComma : Bool) : List Token → Bool
  | [] => afterComma
  | token :: rest => endsInComma (token.kind == .comma) rest

theorem exists_last_of_endsInComma {taken : List Token} (ends : endsInComma false taken = true) :
    ∃ last ∈ taken.getLast?, last.kind = .comma := by
  cases taken with
  | nil => cases ends
  | cons first rest =>
      rw [endsInComma] at ends
      induction rest generalizing first with
      | nil => exact ⟨first, rfl, by simpa [endsInComma] using ends⟩
      | cons second rest induction =>
          rw [List.getLast?_cons_cons]
          exact induction second ends

namespace ValueList

/-- What a token that does not end the list adds to the rest of it. -/
def extend (token : Token) (list : ValueList) : ValueList :=
  match token.kind with
  | .openParen => { list with opened := true }
  | .string | .ident => list.push token.value
  | .pipe | .closeParen | .comma | .operator => list

theorem extend_rest (token : Token) (list : ValueList) :
    (extend token list).rest = list.rest := by
  rw [extend]
  split <;> rfl

theorem extend_replace (token : Token) (list : ValueList) (more : List Token) :
    extend token { list with rest := more } = { extend token list with rest := more } := by
  unfold extend
  split <;> rfl

theorem read_of_ends {afterComma : Bool} {token : Token} (rest : List Token)
    (ends : token.kind.endsList = true ∧ afterComma = false) :
    read afterComma (token :: rest) =
      { values := [], opened := false, rest := token :: rest } := by
  simp [read, ends]

theorem read_of_goesOn {afterComma : Bool} {token : Token} (rest : List Token)
    (goesOn : ¬(token.kind.endsList = true ∧ afterComma = false)) :
    read afterComma (token :: rest) = extend token (read (token.kind == .comma) rest) := by
  have condition : ¬(token.kind.endsList && !afterComma) = true := by simpa using goesOn
  rw [read, if_neg condition]
  rw [extend]
  cases token.kind <;> rfl

theorem foldr_extend_rest (taken : List Token) (list : ValueList) :
    (taken.foldr extend list).rest = list.rest := by
  induction taken with
  | nil => rfl
  | cons token taken induction => exact (extend_rest token _).trans induction

theorem foldr_extend_replace (taken : List Token) (list : ValueList) (more : List Token) :
    taken.foldr extend { list with rest := more } =
      { taken.foldr extend list with rest := more } := by
  induction taken with
  | nil => rfl
  | cons token taken induction =>
      rw [List.foldr_cons, induction]
      exact extend_replace token _ more

/-- The tokens in front of which a list of values may stop when `taken` belongs to it. -/
def Ends (afterComma : Bool) (taken more : List Token) : Prop :=
  ∀ token ∈ more.head?, token.kind.endsList = true ∧ endsInComma afterComma taken = false

private theorem read_of_ends_nil {afterComma : Bool} {more : List Token}
    (ends : Ends afterComma [] more) :
    read afterComma more = { values := [], opened := false, rest := more } := by
  cases more with
  | nil => rfl
  | cons token more => exact read_of_ends more (ends token rfl)

/-- A list of values goes on behind the tokens taken as if it started there. -/
theorem exists_taken (afterComma : Bool) (tokens : List Token) :
    ∃ taken, tokens = taken ++ (read afterComma tokens).rest ∧
      Ends afterComma taken (read afterComma tokens).rest ∧
      ∀ more, read afterComma (taken ++ more) =
        taken.foldr extend (read (endsInComma afterComma taken) more) := by
  induction tokens generalizing afterComma with
  | nil => exact ⟨[], rfl, by simp [Ends, read], fun more => rfl⟩
  | cons token rest induction =>
      by_cases ends : token.kind.endsList = true ∧ afterComma = false
      · rw [read_of_ends rest ends]
        refine ⟨[], rfl, ?_, fun more => rfl⟩
        intro first isFirst
        obtain rfl : token = first := by simpa using isFirst
        exact ends
      · obtain ⟨taken, split, halted, onward⟩ := induction (token.kind == .comma)
        rw [read_of_goesOn rest ends, extend_rest]
        refine ⟨token :: taken, congrArg (token :: ·) split, halted, ?_⟩
        intro more
        rw [List.cons_append, read_of_goesOn _ ends, onward more]
        rfl

/-- In front of all tokens that may end it a list of values is the same. -/
theorem read_eq_of_ends {afterComma : Bool} {taken more more' : List Token}
    (onward : ∀ more, read afterComma (taken ++ more) =
      taken.foldr extend (read (endsInComma afterComma taken) more))
    (ends : Ends afterComma taken more) (ends' : Ends afterComma taken more') :
    read afterComma (taken ++ more') = { read afterComma (taken ++ more) with rest := more' } := by
  have nothing : ∀ more, Ends afterComma taken more → read (endsInComma afterComma taken) more =
      { values := [], opened := false, rest := more } :=
    fun more ends => read_of_ends_nil ends
  rw [onward, onward, nothing more ends, nothing more' ends', ← foldr_extend_replace]

end ValueList

/-- A list of values with its closing parenthesis is read in front of everything. -/
private theorem took_readOneOf_closed {field : String} {negated : Bool}
    {tokens taken rest : List Token} {token : Token}
    (split : tokens = taken ++ (ValueList.read false tokens).rest)
    (left : (ValueList.read false tokens).rest = token :: rest) (closes : token.kind = .closeParen)
    (again : ∀ more, ValueList.read false (taken ++ token :: more) =
      { ValueList.read false tokens with rest := token :: more }) :
    Took (fun ending => readOneOf ending field negated) tokens
      { value := .oneOf field (ValueList.read false tokens).values negated, lookedAhead := false
        rest }
      (taken ++ [token]) fun _ => true where
  split := by
    rw [List.append_assoc]
    exact split.trans (congrArg (taken ++ ·) left)
  halted _ _ := rfl
  again ending more _ := by
    rw [List.append_assoc]
    simp only [List.cons_append, List.nil_append, readOneOf, again more,
      readClosing_closeParen closes]
    rfl

/-- A list of values without parentheses is read up to a pipe, unless a comma stands in front of
it. -/
private theorem took_readOneOf_open {field : String} {negated : Bool} {tokens taken : List Token}
    (split : tokens = taken ++ (ValueList.read false tokens).rest)
    (notOpened : (ValueList.read false tokens).opened = false)
    (halted : ValueList.Ends false taken (ValueList.read false tokens).rest)
    (notClosing : ∀ token ∈ (ValueList.read false tokens).rest.head?, token.kind ≠ .closeParen)
    (again : ∀ more, ValueList.Ends false taken more → ValueList.read false (taken ++ more) =
      { ValueList.read false tokens with rest := more }) :
    Took (fun ending => readOneOf ending field negated) tokens
      { value := .oneOf field (ValueList.read false tokens).values negated, lookedAhead := true
        rest := (ValueList.read false tokens).rest }
      taken fun kind => isPipe kind && !endsInComma false taken where
  split := split
  halted token isFirst := by
    obtain ⟨ends, afterValue⟩ := halted token isFirst
    rcases TokenKind.endsList_iff.mp ends with pipe | closes
    · simp [isPipe_iff.mpr pipe, afterValue]
    · exact absurd closes (notClosing token isFirst)
  again ending more halts := by
    have ends : ValueList.Ends false taken more := by
      intro token isFirst
      cases more with
      | nil => cases isFirst
      | cons first more =>
          obtain rfl : first = token := by simpa using isFirst
          obtain ⟨pipe, afterValue⟩ := (Bool.and_eq_true _ _).mp halts
          exact ⟨TokenKind.endsList_iff.mpr (.inl (isPipe_iff.mp pipe)), by
            simpa using afterValue⟩
    have stops : Halts isPipe ending more :=
      halts.mono fun _ stopped => ((Bool.and_eq_true _ _).mp stopped).1
    simp only [readOneOf, again more ends, notOpened, readClosing_halts stops]
    rfl

theorem exists_took_of_readOneOf {ending : Ending} {field : String} {negated : Bool}
    {tokens : List Token} {reading : Reading Clause}
    (read : readOneOf ending field negated tokens = .ok reading) :
    ∃ taken stops, Took (fun ending => readOneOf ending field negated) tokens reading taken stops ∧
      StoppedByPipe taken stops := by
  obtain ⟨taken, split, halted, onward⟩ := ValueList.exists_taken false tokens
  have again : ∀ more, ValueList.Ends false taken more → ValueList.read false (taken ++ more) =
      { ValueList.read false tokens with rest := more } := by
    intro more ends
    have same := ValueList.read_eq_of_ends onward halted ends
    rw [← split] at same
    exact same
  obtain ⟨closing, closed, rfl⟩ := exists_of_map_ok read
  rcases readClosing_cases closed with ⟨token, rest, left, closes, rfl⟩ |
    ⟨notOpened, notClosing, rfl⟩
  · have ends : ∀ more, ValueList.Ends false taken (token :: more) := by
      intro more first isFirst
      obtain rfl : token = first := by simpa using isFirst
      exact ⟨TokenKind.endsList_iff.mpr (.inr closes), (halted token (by rw [left]; rfl)).2⟩
    exact ⟨_, _, took_readOneOf_closed split left closes fun more => again _ (ends more),
      .inl rfl⟩
  · refine ⟨_, _, took_readOneOf_open split notOpened halted notClosing again, ?_⟩
    cases afterComma : endsInComma false taken with
    | false => exact .inl (by simp)
    | true => exact .inr (exists_last_of_endsInComma afterComma)

/-! ## Chains of bounds -/

/-- A bound is the number that a word stands for. -/
theorem word_of_readBound {field : String} {token : Token} {unlexed : List Token}
    {value : Binary64} (read : readBound field token unlexed = .ok value) :
    token.kind = .ident ∧ Binary64.ofWord? token.value = some value := by
  rw [readBound] at read
  split at read
  · next isWord =>
      split at read
      · next isNumber =>
          cases read
          exact ⟨isWord, isNumber⟩
      · cases read
  · cases read

theorem readBound_ok {field : String} {token : Token} {unlexed : List Token} {value : Binary64}
    (read : readBound field token unlexed = .ok value) (unlexed' : List Token) :
    readBound field token unlexed' = .ok value := by
  obtain ⟨isWord, isNumber⟩ := word_of_readBound read
  rw [readBound, if_pos isWord, isNumber]

theorem readChain_halts {ending : Ending} {more : List Token} (field : String)
    (bounds : Bounds) (halts : Halts isPipe ending more) :
    readChain ending field bounds more =
      .ok { value := bounds, lookedAhead := true, rest := more } := by
  cases more with
  | nil => simp [readChain, settle_of_fault halts, Except.map]
  | cons token more => simp [readChain, isPipe_iff.mp halts]

theorem exists_took_of_readChain {ending : Ending} {field : String} {bounds : Bounds}
    {tokens : List Token} {reading : Reading Bounds}
    (read : readChain ending field bounds tokens = .ok reading) :
    ∃ taken, Took (fun ending => readChain ending field bounds) tokens reading taken isPipe := by
  fun_induction readChain ending field bounds tokens with
  | case1 bounds =>
      obtain rfl := eq_of_settle_map read
      exact ⟨[], rfl, by simp, fun _ _ halts => readChain_halts field bounds halts⟩
  | case2 bounds token rest pipe =>
      cases read
      refine ⟨[], rfl, ?_, fun _ _ halts => readChain_halts field bounds halts⟩
      simpa [isPipe_iff] using pipe
  | case3 bounds token rest notPipe noRelation induction =>
      obtain ⟨taken, took⟩ := induction read
      refine ⟨token :: taken, took.behind (f := id) [token] ?_⟩
      intro ending' more inner readInner
      simp only [List.cons_append, readChain, if_neg notPipe, noRelation]
      exact readInner
  | case4 => cases read
  | case5 => cases read
  | case6 bounds token notPipe relation isRelation operand rest value bound induction =>
      obtain ⟨taken, took⟩ := induction read
      refine ⟨token :: operand :: taken, took.behind (f := id) [token, operand] ?_⟩
      intro ending' more inner readInner
      simp only [List.cons_append, List.nil_append, readChain, if_neg notPipe, isRelation,
        readBound_ok bound _]
      exact readInner

theorem exists_took_of_readRange {ending : Ending} {field : String} {relation : Relation}
    {tokens : List Token} {reading : Reading Clause}
    (read : readRange ending field relation tokens = .ok reading) :
    ∃ taken, Took (fun ending => readRange ending field relation) tokens reading taken
      isPipe := by
  obtain ⟨operand, rest, value, chain, rfl, bound, chained, rfl⟩ := exists_of_readRange read
  obtain ⟨taken, took⟩ := exists_took_of_readChain chained
  refine ⟨operand :: taken, took.behind [operand] ?_⟩
  intro ending' more inner readInner
  simp only [List.cons_append, List.nil_append, readRange, readBound_ok bound _, bind,
    Except.bind, readInner]
  rfl

/-! ## Requests for software -/

/-- A demand has the relation that its first token names, and its second token for a version. -/
theorem demand_of_readConstraint {relation version : Token} {unlexed : List Token}
    {constraint : Constraint} (read : readConstraint relation version unlexed = .ok constraint) :
    version.isText = true ∧ Keyword.relation? relation.value = some constraint.relation ∧
      constraint.version = version.value := by
  rw [readConstraint] at read
  split at read
  · next isText =>
      split at read
      · next kind isRelation =>
          cases read
          exact ⟨isText, isRelation, rfl⟩
      · cases read
  · cases read

theorem readConstraint_ok {relation version : Token} {unlexed : List Token}
    {constraint : Constraint} (read : readConstraint relation version unlexed = .ok constraint)
    (unlexed' : List Token) : readConstraint relation version unlexed' = .ok constraint := by
  obtain ⟨isText, isRelation, isVersion⟩ := demand_of_readConstraint read
  rw [readConstraint, if_pos isText, isRelation, ← isVersion]

theorem readEntries_halts {ending : Ending} {more : List Token} (current : Software)
    (halts : Halts TokenKind.endsList ending more) :
    readEntries ending (some current) more =
      .ok { value := [current], lookedAhead := true, rest := more } := by
  cases more with
  | nil => simp [readEntries, settle_of_fault halts, Except.map]
  | cons token more => rw [readEntries_some_cons, if_pos (by exact halts)]

theorem exists_took_of_readEntries {ending : Ending} {current? : Option Software}
    {tokens : List Token} {reading : Reading (List Software)}
    (read : readEntries ending current? tokens = .ok reading) :
    ∃ taken, Took (fun ending => readEntries ending current?) tokens reading taken
      TokenKind.endsList := by
  fun_induction readEntries ending current? tokens generalizing reading with
  | case1 => cases read
  | case2 current =>
      obtain rfl := eq_of_settle_map read
      exact ⟨[], rfl, by simp, fun _ _ halts => readEntries_halts current halts⟩
  | case3 token rest isComma induction =>
      obtain ⟨taken, took⟩ := induction read
      refine ⟨token :: taken, took.behind (f := id) [token] ?_⟩
      intro ending' more inner readInner
      rw [List.cons_append, readEntries_none_cons, if_pos isComma]
      exact readInner
  | case4 token rest notComma isText induction =>
      obtain ⟨taken, took⟩ := induction read
      refine ⟨token :: taken, took.behind (f := id) [token] ?_⟩
      intro ending' more inner readInner
      rw [List.cons_append, readEntries_none_cons, if_neg notComma, if_pos isText]
      exact readInner
  | case5 => cases read
  | case6 token rest current ends =>
      cases read
      refine ⟨[], rfl, ?_, fun _ _ halts => readEntries_halts current halts⟩
      simpa using ends
  | case7 token rest current goesOn isComma induction =>
      obtain ⟨inner, readInner, rfl⟩ := exists_of_map_ok read
      obtain ⟨taken, took⟩ := induction readInner
      refine ⟨token :: taken, took.behind [token] ?_⟩
      intro ending' more inner' readInner'
      rw [List.cons_append, readEntries_some_cons, if_neg goesOn, if_pos isComma]
      exact congrArg (Except.map _) readInner'
  | case8 => cases read
  | case9 => cases read
  | case10 token current goesOn notComma version rest constraint made induction =>
      obtain ⟨taken, took⟩ := induction read
      refine ⟨token :: version :: taken, took.behind (f := id) [token, version] ?_⟩
      intro ending' more inner readInner
      rw [List.cons_append, readEntries_some_cons, if_neg goesOn, if_neg notComma]
      simp only [List.cons_append, List.nil_append, readConstraint_ok made _]
      exact readInner

/-- A reader followed by a closing parenthesis, or by none if that is not required. -/
private theorem exists_took_closing {α β : Type}
    {inner : Ending → List Token → Except Failure (Reading α)} {ending : Ending}
    (outer : Ending → List Token → Except Failure (Reading β)) {required : Bool}
    {tokens taken : List Token} {stops : TokenKind → Bool}
    {reading : Reading α} {closing : Reading Unit} {f : α → β}
    (took : Took inner tokens reading taken stops) (closable : stops .closeParen = true)
    (pipe : stops .pipe = true)
    (closed : readClosing ending required reading.rest = .ok closing)
    (step : ∀ ending more reading closing, inner ending (taken ++ more) = .ok reading →
      readClosing ending required reading.rest = .ok closing →
        outer ending (taken ++ more) = .ok (closing.map fun _ => f reading.value)) :
    ∃ taken' stops', Took outer tokens (closing.map fun _ => f reading.value)
      (taken ++ taken') stops' ∧ stops' .pipe = true := by
  rcases readClosing_cases closed with ⟨token, rest, left, closes, rfl⟩ |
    ⟨notRequired, notClosing, rfl⟩
  · refine ⟨[token], fun _ => true, ⟨?_, fun _ _ => rfl, ?_⟩, rfl⟩
    · rw [List.append_assoc]
      exact took.split.trans (congrArg (taken ++ ·) left)
    · intro ending' more _
      have halts : Halts stops ending' (token :: more) := by
        simpa [Halts, closes] using closable
      rw [List.append_assoc]
      exact step _ (token :: more) _ _ (took.again ending' (token :: more) halts)
        (readClosing_closeParen closes ending' required more)
  · refine ⟨[], fun kind => stops kind && kind != .closeParen, ⟨?_, ?_, ?_⟩, by simp [pipe]⟩
    · rw [List.append_nil]
      exact took.split
    · intro token isFirst
      simp [took.halted token isFirst, notClosing token isFirst]
    · intro ending' more halts
      have haltsInner : Halts stops ending' more :=
        halts.mono fun _ stopped => ((Bool.and_eq_true _ _).mp stopped).1
      have skipped : readClosing ending' required more =
          .ok { value := (), lookedAhead := true, rest := more } := by
        rw [notRequired]
        cases more with
        | nil => simp [readClosing, settle_of_fault halts, Except.map]
        | cons token more =>
            have goesOn : token.kind ≠ .closeParen := by
              simpa using ((Bool.and_eq_true _ _).mp halts).2
            simp [readClosing, goesOn]
      rw [List.append_nil]
      exact step _ _ _ _ (took.again ending' more haltsInner) skipped

theorem exists_took_of_readClosing {ending : Ending} {required : Bool} {tokens : List Token}
    {closing : Reading Unit} (closed : readClosing ending required tokens = .ok closing) :
    ∃ taken stops, Took (fun ending => readClosing ending required) tokens closing taken stops ∧
      stops .pipe = true := by
  have nothing : Took (fun _ more => .ok { value := (), lookedAhead := false, rest := more })
      tokens { value := (), lookedAhead := false, rest := tokens } [] fun _ => true :=
    ⟨rfl, fun _ _ => rfl, fun _ _ _ => rfl⟩
  apply exists_took_closing (f := id) _ nothing rfl rfl closed
  intro ending' more reading closing' read closed'
  cases read
  exact closed'

/-- A list of entries takes at least the token it starts with. -/
private theorem exists_cons_of_took {token : Token} {rest taken : List Token}
    {entries : Reading (List Software)} {stops : TokenKind → Bool}
    (took : Took (fun ending => readEntries ending none) (token :: rest) entries taken stops) :
    ∃ taken', taken = token :: taken' := by
  cases taken with
  | nil => cases took.again { fault := none, length := 0 } [] rfl
  | cons first taken' =>
      obtain ⟨rfl, -⟩ := List.cons.inj took.split
      exact ⟨taken', rfl⟩

theorem exists_took_of_readRequested {ending : Ending} {fuzzy opened : Bool}
    {tokens : List Token} {reading : Reading SoftwareRequest}
    (read : readRequested ending fuzzy opened tokens = .ok reading) :
    ∃ first taken stops, first.isText = true ∧
      Took (fun ending => readRequested ending fuzzy opened) tokens reading (first :: taken)
        stops ∧ stops .pipe = true := by
  obtain ⟨token, rest, rfl, isText, referred | listed⟩ := exists_of_readRequested read
  · obtain ⟨isReference, closing, closed, rfl⟩ := referred
    obtain ⟨taken, stops, took, pipe⟩ := exists_took_of_readClosing closed
    refine ⟨token, taken, stops, isText, took.behind [token] ?_, pipe⟩
    intro ending' more inner readInner
    rw [List.cons_append, List.nil_append, readRequested, if_pos isText, if_pos isReference,
      readInner]
    rfl
  · obtain ⟨notReference, entries, closing, listed, closed, rfl⟩ := listed
    obtain ⟨taken, took⟩ := exists_took_of_readEntries listed
    obtain ⟨taken, rfl⟩ := exists_cons_of_took took
    obtain ⟨taken', stops, both, pipe⟩ := exists_took_closing
      (f := fun entries => ({ entries, listReference := none, fuzzy } : SoftwareRequest))
      (fun ending => readRequested ending fuzzy opened) took rfl rfl closed
      fun _ _ _ _ => readRequested_of_entries fuzzy isText notReference
    exact ⟨token, taken ++ taken', stops, isText, both, pipe⟩

/-- An opening parenthesis is taken when it comes next. -/
theorem readOpening_cases (tokens : List Token) :
    (∃ token rest, tokens = token :: rest ∧ token.kind = .openParen ∧
        readOpening tokens = (true, rest)) ∨
      readOpening tokens = (false, tokens) ∧ ∀ token ∈ tokens.head?, token.kind ≠ .openParen := by
  cases tokens with
  | nil => exact .inr ⟨rfl, by simp⟩
  | cons token rest =>
      by_cases opens : token.kind = .openParen
      · exact .inl ⟨token, rest, rfl, opens, by simp [readOpening, opens]⟩
      · exact .inr ⟨by simp [readOpening, opens], by simpa using opens⟩

theorem readOpening_of_text {token : Token} (isText : token.isText = true) (rest : List Token) :
    readOpening (token :: rest) = (false, token :: rest) := by
  have goesOn : token.kind ≠ .openParen := by
    intro opens
    simp [Token.isText, opens, TokenKind.isText] at isText
  simp [readOpening, goesOn]

theorem exists_took_of_readSoftware {ending : Ending} {tokens : List Token}
    {reading : Reading Clause} (read : readSoftware ending tokens = .ok reading) :
    ∃ taken stops, Took readSoftware tokens reading taken stops ∧ stops .pipe = true := by
  obtain ⟨keyword, rest, comparison, requested, rfl, isKeyword, compares, readInner, rfl⟩ :=
    exists_of_readSoftware read
  have equation := readSoftware_of_comparison isKeyword compares
  obtain ⟨first, taken, stops, isText, took, pipe⟩ := exists_took_of_readRequested readInner
  rcases readOpening_cases rest with ⟨paren, rest', rfl, opens, opened⟩ | ⟨opened, -⟩
  · rw [opened] at took
    refine ⟨_, stops, took.behind [keyword, paren] ?_, pipe⟩
    intro ending' more inner inside
    rw [List.cons_append, equation]
    simp only [List.cons_append, List.nil_append, readOpening, opens, if_true]
    exact congrArg (Except.map _) inside
  · rw [opened] at took
    refine ⟨_, stops, took.behind [keyword] ?_, pipe⟩
    intro ending' more inner inside
    rw [List.cons_append, List.nil_append, equation, List.cons_append,
      readOpening_of_text isText]
    exact congrArg (Except.map _) inside

/-! ## Clauses about a field -/

theorem exists_took_of_readText {ending : Ending} {field : String}
    {comparison : Keyword.Comparison} {tokens : List Token} {reading : Reading Clause}
    (read : readText ending field comparison tokens = .ok reading) :
    ∃ taken, Took (fun ending => readText ending field comparison) tokens reading taken
      fun _ => true := by
  cases tokens with
  | nil => cases read
  | cons token rest =>
      simp only [readText] at read
      split at read
      · next isText =>
          cases read
          refine ⟨[token], rfl, fun _ _ => rfl, ?_⟩
          intro ending' more _
          simp [readText, isText]
      · cases read

theorem exists_took_of_readTest {ending : Ending} {field : String} {negated : Bool}
    {tokens : List Token} {reading : Reading Clause}
    (read : readTest ending field negated tokens = .ok reading) :
    ∃ keyword taken stops, tokens.head? = some keyword ∧
      Took (fun ending => readTest ending field negated) tokens reading (keyword :: taken) stops ∧
        StoppedByPipe (keyword :: taken) stops := by
  obtain ⟨keyword, rest, test, rfl, isKeyword, asked, readInner⟩ := exists_of_readTest read
  have equation := fun ending' more => readTest_cons isKeyword asked ending' field negated more
  cases test with
  | oneOf =>
      obtain ⟨taken, stops, took, stopped⟩ := exists_took_of_readOneOf readInner
      refine ⟨keyword, taken, stops, rfl, took.behind (f := id) [keyword] ?_,
        stopped.cons keyword⟩
      intro ending' more inner inside
      exact (equation ending' _).trans inside
  | text comparison =>
      obtain ⟨taken, took⟩ := exists_took_of_readText readInner
      refine ⟨keyword, taken, _, rfl, took.behind (f := id) [keyword] ?_, .inl rfl⟩
      intro ending' more inner inside
      exact (equation ending' _).trans inside
  | bounds relation =>
      obtain ⟨taken, took⟩ := exists_took_of_readRange readInner
      refine ⟨keyword, taken, _, rfl, took.behind (f := id) [keyword] ?_, .inl rfl⟩
      intro ending' more inner inside
      exact (equation ending' _).trans inside

/-- A negating keyword is taken when it comes next. -/
theorem readNegation_cases (tokens : List Token) :
    (∃ token rest, tokens = token :: rest ∧
        (∀ more, readNegation (token :: more) = (true, more))) ∨
      ∀ more, more.head? = tokens.head? → readNegation more = (false, more) := by
  cases tokens with
  | nil =>
      refine .inr fun more same => ?_
      cases more with
      | nil => rfl
      | cons token more => cases same
  | cons token rest =>
      by_cases negates : token.kind = .ident ∧ Keyword.isNot token.value = true
      · exact .inl ⟨token, rest, rfl, fun more => by simp [readNegation, negates]⟩
      · refine .inr fun more same => ?_
        cases more with
        | nil => cases same
        | cons first more =>
            obtain rfl : first = token := by simpa using same
            simp [readNegation, negates]

/-! ## Clauses -/

theorem exists_took_of_readOperand {ending : Ending} {clause : String → Clause}
    {tokens : List Token} {reading : Reading (Option Clause)}
    (read : readOperand ending clause tokens = .ok reading) :
    ∃ taken stops, Took (fun ending => readOperand ending clause) tokens reading taken stops ∧
      (stops .pipe = true ∨ taken = []) := by
  cases tokens with
  | nil =>
      obtain rfl := eq_of_settle_map read
      refine ⟨[], fun _ => false, ⟨rfl, by simp, ?_⟩, .inr rfl⟩
      intro ending' more halts
      cases more with
      | nil => simp [readOperand, settle_of_fault halts, Except.map]
      | cons token more => cases halts
  | cons token rest =>
      cases read
      exact ⟨[token], fun _ => true, ⟨rfl, fun _ _ => rfl, fun _ _ _ => rfl⟩, .inl rfl⟩

end Query

/-- Behind this token a pipe may belong to the clause: a comma takes it into a list, and a filter or
a grouping takes it for an operand. -/
def Token.AbsorbsPipe (token : Token) : Prop :=
  token.kind = .comma ∨ token.kind = .ident ∧ (token.value = "filter" ∨ token.value = "group")

instance (token : Token) : Decidable token.AbsorbsPipe :=
  inferInstanceAs (Decidable (_ ∨ _))

namespace Query

private theorem exists_took_of_readField {settings : Settings} {ending : Ending} {word : Token}
    {tokens : List Token} {reading : Reading (Option Clause)}
    (free : word.value ∉ Keyword.reserved)
    (read : readWord settings ending word tokens = .ok reading) :
    ∃ taken stops, Took (fun ending => readWord settings ending word) tokens reading taken stops ∧
      StoppedByPipe taken stops := by
  rw [readWord_field free] at read
  split at read
  · next admitted =>
      rcases readNegation_cases tokens with ⟨token, rest, rfl, negated⟩ | plain
      · obtain ⟨inner, readInner, rfl⟩ := exists_of_map_ok read
        rw [negated] at readInner
        obtain ⟨keyword, taken, stops, -, took, stopped⟩ := exists_took_of_readTest readInner
        refine ⟨_, stops, took.behind [token] ?_, stopped.cons token⟩
        intro ending' more inner' inside
        rw [readWord_field free, if_pos admitted, List.cons_append, negated]
        exact congrArg (Except.map _) inside
      · obtain ⟨inner, readInner, rfl⟩ := exists_of_map_ok read
        rw [plain tokens rfl] at readInner
        obtain ⟨keyword, taken, stops, first, took, stopped⟩ := exists_took_of_readTest readInner
        refine ⟨_, stops, took.behind [] ?_, stopped⟩
        intro ending' more inner' inside
        rw [readWord_field free, if_pos admitted, List.nil_append,
          plain (keyword :: taken ++ more) first.symm]
        exact congrArg (Except.map _) inside
  · cases read

theorem exists_took_of_readWord {settings : Settings} {ending : Ending} {word : Token}
    {tokens : List Token} {reading : Reading (Option Clause)} (isWord : word.kind = .ident)
    (read : readWord settings ending word tokens = .ok reading) :
    ∃ taken stops, Took (fun ending => readWord settings ending word) tokens reading taken stops ∧
      (stops .pipe = true ∨ ∃ last ∈ (word :: taken).getLast?, last.AbsorbsPipe) := by
  by_cases isFilter : word.value = "filter"
  · rw [readWord_filter isFilter] at read
    obtain ⟨taken, stops, took, stopped⟩ := exists_took_of_readOperand read
    refine ⟨_, stops, took.behind (f := id) [] ?_, ?_⟩
    · intro ending' more inner inside
      rw [readWord_filter isFilter]
      exact inside
    · rcases stopped with stopped | rfl
      · exact .inl stopped
      · exact .inr ⟨word, rfl, .inr ⟨isWord, .inl isFilter⟩⟩
  by_cases isGroup : word.value = "group"
  · rw [readWord_group isGroup] at read
    obtain ⟨taken, stops, took, stopped⟩ := exists_took_of_readOperand read
    refine ⟨_, stops, took.behind (f := id) [] ?_, ?_⟩
    · intro ending' more inner inside
      rw [readWord_group isGroup]
      exact inside
    · rcases stopped with stopped | rfl
      · exact .inl stopped
      · exact .inr ⟨word, rfl, .inr ⟨isWord, .inr isGroup⟩⟩
  by_cases isSoftware : word.value = "software"
  · rw [readWord_software isSoftware] at read
    obtain ⟨inner, readInner, rfl⟩ := exists_of_map_ok read
    obtain ⟨taken, stops, took, stopped⟩ := exists_took_of_readSoftware readInner
    refine ⟨_, stops, took.behind [] ?_, .inl stopped⟩
    intro ending' more inner' inside
    rw [readWord_software isSoftware, List.nil_append, inside]
    rfl
  · have free : word.value ∉ Keyword.reserved := by
      simp [Keyword.reserved, isFilter, isGroup, isSoftware]
    obtain ⟨taken, stops, took, stopped⟩ := exists_took_of_readField free read
    refine ⟨taken, stops, took, ?_⟩
    rcases stopped.cons word with stopped | ⟨last, isLast, comma⟩
    · exact .inl stopped
    · exact .inr ⟨last, isLast, .inl comma⟩

/-- A clause that is read takes some tokens behind its first one and looks at the next one at most.
A pipe stops it unless the last token taken absorbs pipes. -/
theorem exists_took_of_readClause {settings : Settings} {ending : Ending} {token : Token}
    {tokens : List Token} {reading : Reading (Option Clause)}
    (read : readClause settings ending token tokens = .ok reading) :
    ∃ taken stops,
      Took (fun ending => readClause settings ending token) tokens reading taken stops ∧
        (stops .pipe = true ∨ ∃ last ∈ (token :: taken).getLast?, last.AbsorbsPipe) := by
  unfold readClause at read ⊢
  split at read
  · next isWord => exact exists_took_of_readWord isWord read
  · cases read
    exact ⟨[], fun _ => true, ⟨rfl, fun _ _ => rfl, fun _ _ _ => rfl⟩, .inl rfl⟩
  · cases read

end Query
end PipeQuery

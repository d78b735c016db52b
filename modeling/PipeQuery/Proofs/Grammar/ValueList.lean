import PipeQuery.Proofs.Grammar.Field
import PipeQuery.Proofs.Separation

/-!
# What a list of values is

A list of values goes on to the first pipe or closing parenthesis that stands right behind no comma.
Its values are the texts in it, and a closing parenthesis behind it is needed where an opening one
stands in it; commas change nothing else (`Query.readClause_listed`).  Hence a value comes from
behind a pipe only where a comma stands right in front of that pipe (`Query.parse_listed`), and
there it may come from what looks like the next clause (`Query.parse_listed_beyond_pipe`).
-/

namespace PipeQuery
namespace Query
namespace ValueList

/-! ## The tokens of a list -/

/-- A pipe or a closing parenthesis among the tokens stands right behind a comma; for the first of
them `afterComma` says whether it does. -/
def Unbroken (afterComma : Bool) (listed : List Token) : Prop :=
  ∀ before token after, listed = before ++ token :: after → token.kind.endsList = true →
    endsInComma afterComma before = true

/-- The tokens `listed` make up the list that starts `listed ++ rest`: nothing in them ends it, and
the first token behind them does. -/
structure Covers (afterComma : Bool) (listed rest : List Token) : Prop where
  /-- Nothing in the list ends it. -/
  unbroken : Unbroken afterComma listed
  /-- The list ends behind them. -/
  ended : Ends afterComma listed rest

theorem unbroken_nil (afterComma : Bool) : Unbroken afterComma [] := by
  intro before token after split
  simp at split

theorem unbroken_cons_iff {afterComma : Bool} {token : Token} {listed : List Token} :
    Unbroken afterComma (token :: listed) ↔
      (token.kind.endsList = true → afterComma = true) ∧
        Unbroken (token.kind == .comma) listed := by
  constructor
  · intro unbroken
    refine ⟨unbroken [] token listed rfl, ?_⟩
    rintro before later after rfl
    exact unbroken (token :: before) later after rfl
  · rintro ⟨goesOn, unbroken⟩ before later after split
    cases before with
    | nil =>
        obtain ⟨rfl, -⟩ := List.cons.inj split
        exact goesOn
    | cons first before =>
        obtain ⟨rfl, behind⟩ := List.cons.inj split
        exact unbroken before later after behind

theorem exists_covers (afterComma : Bool) (tokens : List Token) :
    ∃ listed rest, tokens = listed ++ rest ∧ Covers afterComma listed rest := by
  induction tokens generalizing afterComma with
  | nil => exact ⟨[], [], rfl, unbroken_nil afterComma, by simp [Ends]⟩
  | cons token tokens induction =>
      by_cases ends : token.kind.endsList = true ∧ afterComma = false
      · exact ⟨[], token :: tokens, rfl, unbroken_nil afterComma, by
          simpa [Ends, endsInComma] using ends⟩
      · obtain ⟨listed, rest, rfl, covers⟩ := induction (token.kind == .comma)
        have goesOn : token.kind.endsList = true → afterComma = true := by simpa using ends
        exact ⟨token :: listed, rest, rfl, unbroken_cons_iff.mpr ⟨goesOn, covers.unbroken⟩,
          covers.ended⟩

/-! ## What the tokens mean -/

/-- The texts among the tokens. -/
def texts (tokens : List Token) : List String :=
  (tokens.filter Token.isText).map Token.value

/-- Reading goes over tokens that do not end the list. -/
theorem read_append_of_unbroken {afterComma : Bool} {listed : List Token}
    (unbroken : Unbroken afterComma listed) (more : List Token) :
    read afterComma (listed ++ more) =
      listed.foldr extend (read (endsInComma afterComma listed) more) := by
  induction listed generalizing afterComma with
  | nil => rfl
  | cons token listed induction =>
      obtain ⟨goesOn, later⟩ := unbroken_cons_iff.mp unbroken
      have notEnding : ¬(token.kind.endsList = true ∧ afterComma = false) := by simpa using goesOn
      rw [List.cons_append, read_of_goesOn _ notEnding, induction later]
      rfl

/-- The texts are values, opening parentheses are noticed, and all else means nothing. -/
theorem foldr_extend (listed rest : List Token) :
    listed.foldr extend { values := [], opened := false, rest } =
      { values := texts listed, opened := listed.any (·.kind == .openParen), rest } := by
  induction listed with
  | nil => rfl
  | cons token listed induction =>
      rw [List.foldr_cons, induction]
      cases kind : token.kind <;>
        simp [extend, kind, texts, push, Token.isText, TokenKind.isText]

theorem read_of_covers {afterComma : Bool} {listed rest : List Token}
    (covers : Covers afterComma listed rest) :
    read afterComma (listed ++ rest) =
      { values := texts listed, opened := listed.any (·.kind == .openParen), rest } := by
  rw [read_append_of_unbroken covers.unbroken, ← foldr_extend]
  cases rest with
  | nil => rfl
  | cons token rest => rw [read_of_ends rest (covers.ended token rfl)]

/-- Commas are passed over, and in front of a token that cannot end the list it does not matter
whether any were there. -/
theorem read_commas {commas : List Token} (areCommas : ∀ token ∈ commas, token.kind = .comma)
    {next : Token} (goesOn : next.kind.endsList = false) (afterComma : Bool)
    (back : List Token) :
    read afterComma (commas ++ next :: back) = extend next (read (next.kind == .comma) back) := by
  induction commas generalizing afterComma with
  | nil => exact read_of_goesOn back (by simp [goesOn])
  | cons comma commas induction =>
      obtain ⟨isComma, others⟩ := List.forall_mem_cons.mp areCommas
      rw [List.cons_append, read_of_goesOn _ (by simp [isComma, TokenKind.endsList]),
        induction others]
      simp [extend, isComma]

end ValueList

/-! ## What a clause comes to -/

/-- What becomes of a clause with the list `listed` in front of `rest`. -/
inductive Concludes (ending : Ending) (clause : Clause) (listed : List Token) :
    List Token → Except Failure (Reading (Option Clause)) → Prop where
  /-- A closing parenthesis is taken. -/
  | closed {closing : Token} {rest : List Token} (closes : closing.kind = .closeParen) :
      Concludes ending clause listed (closing :: rest)
        (.ok { value := some clause, lookedAhead := false, rest })
  /-- Without parentheses the list ends at a pipe or with the query. -/
  | unopened {rest : List Token} (notOpened : ∀ token ∈ listed, token.kind ≠ .openParen)
      (stopped : ∀ token ∈ rest.head?, token.kind = .pipe) :
      Concludes ending clause listed rest
        (.ok { value := some clause, lookedAhead := true, rest })
  /-- A pipe stands where a closing parenthesis is needed. -/
  | unclosedAtPipe {opening pipe : Token} {rest : List Token} (isOpening : opening ∈ listed)
      (opens : opening.kind = .openParen) (isPipe : pipe.kind = .pipe) :
      Concludes ending clause listed (pipe :: rest)
        (.error { cause := .expectedClosingParen, column := pipe.pos, unlexed := rest })
  /-- The query ends where a closing parenthesis is needed. -/
  | unclosedAtEnd {opening : Token} (isOpening : opening ∈ listed)
      (opens : opening.kind = .openParen) :
      Concludes ending clause listed []
        (.error { cause := .expectedClosingParen, column := ending.length, unlexed := [] })

theorem concludes_readClosing {ending : Ending} (whole : ending.fault = none) (clause : Clause)
    {listed rest : List Token} (ended : ValueList.Ends false listed rest) :
    Concludes ending clause listed rest
      ((readClosing ending (listed.any (·.kind == .openParen)) rest).map
        (Reading.map fun _ => some clause)) := by
  cases opened : listed.any (·.kind == .openParen) with
  | false =>
      have notOpened : ∀ token ∈ listed, token.kind ≠ .openParen := by simpa using opened
      cases rest with
      | nil =>
          simpa [readClosing, settle_of_fault whole, Except.map, Reading.map] using
            Concludes.unopened notOpened (by simp)
      | cons token rest =>
          rcases TokenKind.endsList_iff.mp (ended token rfl).1 with isPipe | closes
          · simpa [readClosing, isPipe, Except.map, Reading.map] using
              Concludes.unopened notOpened (by simpa using isPipe)
          · rw [readClosing_closeParen closes]
            exact .closed closes
  | true =>
      obtain ⟨opening, isOpening, opens⟩ := List.any_eq_true.mp opened
      have opens : opening.kind = .openParen := by simpa using opens
      cases rest with
      | nil =>
          simpa [readClosing, Ending.refuse, whole, Except.map] using
            Concludes.unclosedAtEnd isOpening opens
      | cons token rest =>
          rcases TokenKind.endsList_iff.mp (ended token rfl).1 with isPipe | closes
          · simpa [readClosing, isPipe, Except.map, Failure.blame] using
              Concludes.unclosedAtPipe isOpening opens isPipe
          · rw [readClosing_closeParen closes]
            exact .closed closes

theorem concludes_readOneOf {ending : Ending} (whole : ending.fault = none) (field : String)
    (negated : Bool) {listed rest : List Token} (covers : ValueList.Covers false listed rest) :
    Concludes ending (.oneOf field (ValueList.texts listed) negated) listed rest
      ((readOneOf ending field negated (listed ++ rest)).map (Reading.map some)) := by
  rw [readOneOf, ValueList.read_of_covers covers, map_map_reading]
  exact concludes_readClosing whole (.oneOf field (ValueList.texts listed) negated) covers.ended

/-- Behind the keyword for lists the tokens are a list and what stands behind it, and the clause has
the texts of the list for its values.  How many commas stand in front of a token that cannot end the
list, a further text say, does not matter, nor whether there are any. -/
theorem readClause_listed {settings : Settings} {ending : Ending} {word keyword : Token}
    {negation : Option Token} (introduces : Introduces settings word negation keyword)
    (isIn : Keyword.isIn keyword.value = true) (whole : ending.fault = none) :
    (∀ tokens, ∃ listed rest, tokens = listed ++ rest ∧ ValueList.Covers false listed rest ∧
      Concludes ending (.oneOf word.value (ValueList.texts listed) negation.isSome) listed rest
        (readClause settings ending word (negation.toList ++ keyword :: tokens))) ∧
    ∀ front next back commas commas', ValueList.Unbroken false front →
      next.kind.endsList = false →
      (∀ token ∈ commas, token.kind = .comma) → (∀ token ∈ commas', token.kind = .comma) →
      readClause settings ending word
          (negation.toList ++ keyword :: (front ++ (commas ++ next :: back))) =
        readClause settings ending word
          (negation.toList ++ keyword :: (front ++ (commas' ++ next :: back))) := by
  have asked := test?_eq_oneOf_iff.mpr isIn
  constructor
  · intro tokens
    obtain ⟨listed, rest, rfl, covers⟩ := ValueList.exists_covers false tokens
    refine ⟨listed, rest, rfl, covers, ?_⟩
    rw [readClause_introduced introduces asked]
    exact concludes_readOneOf whole word.value negation.isSome covers
  · intro front next back commas commas' unbroken goesOn areCommas areCommas'
    have same : ValueList.read false (front ++ (commas ++ next :: back)) =
        ValueList.read false (front ++ (commas' ++ next :: back)) := by
      rw [ValueList.read_append_of_unbroken unbroken, ValueList.read_commas areCommas goesOn,
        ValueList.read_append_of_unbroken unbroken, ValueList.read_commas areCommas' goesOn]
    rw [readClause_introduced introduces asked, readClause_introduced introduces asked]
    simp only [Test.read, readOneOf, same]

/-- Behind a comma a pipe belongs to the list, so the opening parenthesis stays open to the end. -/
theorem readClause_listed_negated :
    let settings := Settings.ofFields ["tags"]
    let word : Token := { kind := .ident, value := "tags", pos := 0 }
    let negation : Option Token := some { kind := .ident, value := "not", pos := 5 }
    let keyword : Token := { kind := .ident, value := "IN", pos := 9 }
    let list : List Token :=
      [{ kind := .openParen, value := "(", pos := 12 },
        { kind := .string, value := "a", pos := 14 },
        { kind := .comma, value := ",", pos := 16 }, { kind := .pipe, value := "|", pos := 18 },
        { kind := .ident, value := "b", pos := 20 }]
    let ending : Ending := { fault := none, length := 21 }
    Introduces settings word negation keyword ∧ Keyword.isIn keyword.value = true ∧
      ending.fault = none ∧
      ∃ listed rest, list = listed ++ rest ∧ ValueList.Covers false listed rest ∧
        Concludes ending (.oneOf "tags" (ValueList.texts listed) true) listed rest
          (readClause settings ending word (negation.toList ++ keyword :: list)) := by
  intro settings word negation keyword list ending
  have introduces : Introduces settings word negation keyword :=
    { isWord := rfl
      names := ⟨by decide +kernel, by decide +kernel⟩
      negates := by decide +kernel
      isKeyword := .inl rfl }
  have isIn : Keyword.isIn keyword.value = true := by decide +kernel
  exact ⟨introduces, isIn, rfl, (readClause_listed introduces isIn rfl).1 list⟩

/-! ## The lists of a query -/

/-- The clause of the part compares a field with the texts in `listed`, and a pipe among these
tokens stands right behind a comma. -/
structure Part.Lists (settings : Settings) (part : Part) (negation : Option Token)
    (keyword : Token) (listed : List Token) (closing : Option Token) : Prop where
  /-- The tokens of the part. -/
  split : part.others = negation.toList ++ keyword :: (listed ++ closing.toList)
  /-- The first of them introduce a test. -/
  introduces : Introduces settings part.first negation keyword
  /-- The test is one for lists. -/
  isIn : Keyword.isIn keyword.value = true
  /-- The texts are the values of the clause. -/
  isClause :
    part.clause = .oneOf part.first.value (ValueList.texts listed) negation.isSome
  /-- Only a closing parenthesis may stand behind the list. -/
  closes : ∀ token ∈ closing, token.kind = .closeParen
  /-- The list goes over no other pipe. -/
  pipes : ∀ before pipe after, listed = before ++ pipe :: after → pipe.kind = .pipe →
    ∃ comma ∈ before.getLast?, comma.kind = .comma

theorem exists_covers_of_readOneOf {ending : Ending} {field : String} {negated : Bool}
    {tokens : List Token} {reading : Reading Clause}
    (read : readOneOf ending field negated tokens = .ok reading) :
    ∃ listed closing, tokens = listed ++ (Option.toList closing ++ reading.rest) ∧
      ValueList.Unbroken false listed ∧ (∀ token ∈ closing, token.kind = .closeParen) ∧
      reading.value = .oneOf field (ValueList.texts listed) negated := by
  obtain ⟨listed, rest, rfl, covers⟩ := ValueList.exists_covers false tokens
  obtain ⟨closing, closed, rfl⟩ := exists_of_map_ok read
  rw [ValueList.read_of_covers covers] at closed ⊢
  rcases readClosing_cases closed with ⟨token, rest, rfl, closes, rfl⟩ | ⟨-, -, rfl⟩
  · exact ⟨listed, some token, rfl, covers.unbroken, by simpa using closes, rfl⟩
  · exact ⟨listed, none, rfl, covers.unbroken, by simp, rfl⟩

/-- Every part is what a clause was read from. -/
theorem Parted.exists_read {settings : Settings} {ending : Ending} {tokens : List Token}
    {parts : List Part} (parted : Parted settings ending tokens parts) :
    ∀ part ∈ parts, ∃ lookedAhead rest,
      readClause settings ending part.first (part.others ++ rest) =
        .ok { value := some part.clause, lookedAhead, rest } := by
  induction parted with
  | nil => simp
  | bare => simp
  | pipe isPipe later induction => exact induction
  | part notPipe read apart later induction =>
      exact List.forall_mem_cons.mpr ⟨⟨_, _, read⟩, induction⟩

theorem Part.exists_lists {settings : Settings} {ending : Ending} {part : Part}
    {lookedAhead : Bool} {rest : List Token} {field : String} {values : List String}
    {negated : Bool}
    (read : readClause settings ending part.first (part.others ++ rest) =
      .ok { value := some part.clause, lookedAhead, rest })
    (isList : part.clause = .oneOf field values negated) :
    ∃ negation keyword listed closing, part.Lists settings negation keyword listed closing := by
  obtain ⟨negation, keyword, behind, inner, split, introduces, isIn, readInner, same⟩ :=
    exists_introduced_of_oneOf read (congrArg some isList)
  obtain ⟨isClause, -, sameRest⟩ := Reading.mk.inj same
  obtain ⟨listed, closing, rfl, unbroken, closes, isValue⟩ := exists_covers_of_readOneOf readInner
  refine ⟨negation, keyword, listed, closing, ?_, introduces, isIn, ?_, closes, ?_⟩
  · apply (List.append_left_inj rest).mp
    simpa [sameRest] using split
  · exact (Option.some.inj isClause).trans isValue
  · intro before pipe after isPart isPipe
    have behindComma := unbroken before pipe after isPart (by simp [isPipe, TokenKind.endsList])
    exact exists_last_of_endsInComma behindComma

/-- The values of every list come from tokens between its keyword and the first pipe that stands
right behind no comma. -/
theorem parse_listed {settings : Settings} {query : String} {clauses : List Clause}
    (parsed : parse settings query = .ok clauses) :
    ∃ parts : List Part, parts.map Part.clause = clauses ∧
      Parted settings { fault := none, length := query.length } (tokens settings query).tokens
        parts ∧
      ∀ part ∈ parts, ∀ field values negated, part.clause = .oneOf field values negated →
        ∃ negation keyword listed closing,
          part.Lists settings negation keyword listed closing := by
  have outcome := outcome_of_parse parsed
  have whole : (tokens settings query).fault = none := fault_eq_none_of_outcome outcome
  rw [run, whole, String.length_toList] at outcome
  obtain ⟨parts, rfl, parted⟩ := exists_parted_of_outcome outcome
  refine ⟨parts, rfl, parted, ?_⟩
  intro part isPart field values negated isList
  obtain ⟨lookedAhead, rest, read⟩ := parted.exists_read part isPart
  exact Part.exists_lists read isList

/-- One list goes over a pipe, and the next one ends at a pipe. -/
theorem parse_listed_twice :
    let settings := Settings.ofFields ["tags"]
    let query := "tags not in (a, | b) | tags in c d | group tags"
    let clauses := [.oneOf "tags" ["a", "b"] true, .oneOf "tags" ["c", "d"] false, .group "tags"]
    parse settings query = .ok clauses ∧
      ∃ parts : List Part, parts.map Part.clause = clauses ∧
        Parted settings { fault := none, length := query.length } (tokens settings query).tokens
          parts ∧
        ∀ part ∈ parts, ∀ field values negated, part.clause = .oneOf field values negated →
          ∃ negation keyword listed closing,
            part.Lists settings negation keyword listed closing := by
  intro settings query clauses
  have parsed : parse settings query = .ok clauses := by
    decide +kernel
  exact ⟨parsed, parse_listed parsed⟩

/-- Behind a comma a pipe does not end the list, and what stands behind it gives values. -/
theorem parse_listed_beyond_pipe :
    let settings := Settings.ofFields ["severity", "tags"]
    let query := "tags in a, | severity > 2"
    parse settings query = .ok [.oneOf "tags" ["a", "severity", "2"] false] ∧
      ((tokens settings query).tokens.takeWhile (·.kind != .pipe)).map Token.value =
        ["tags", "in", "a", ","] := by
  decide +kernel

end Query
end PipeQuery

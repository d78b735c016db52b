import PipeQuery.Proofs.Composition
import PipeQuery.Proofs.Reading.Acceptance
import PipeQuery.Proofs.Reading.Blame
import PipeQuery.Proofs.Token.Sources

/-!
# What becomes of a negation

A negation may stand behind a field whatever the field is tested for, but only a list of values
keeps it.  A query that starts with a negated test is read like the same query without the negation,
its first clause turned round if it is a list (`Query.parse_negated`); any other test loses the
negation (`Query.parse_exact_negated`).
-/

namespace PipeQuery

namespace Clause

/-- The clause with its negation turned round.  Only a list of values has one. -/
def negate : Clause → Clause
  | oneOf field values negated => oneOf field values (!negated)
  | clause => clause

/-- The clause asks for one of some values. -/
def IsList (clause : Clause) : Prop :=
  ∃ field values negated, clause = oneOf field values negated

theorem negate_ne_iff (clause : Clause) : clause.negate ≠ clause ↔ clause.IsList := by
  cases clause <;> simp [negate, IsList]

end Clause

namespace TokenStream

/-- A word and the space behind it add one token. -/
theorem readFrom_word_space {word : String} (isWord : Text.IsWord word) (tolerant : Bool)
    (offset : Nat) (more : List Char) :
    readFrom tolerant offset (word.toList ++ ' ' :: more) =
      (readFrom tolerant (offset + word.toList.length + 1) more).prepend
        [{ kind := .ident, value := word, pos := offset }] := by
  have alone : readFrom false offset word.toList =
      { tokens := [{ kind := .ident, value := word, pos := offset }], fault := none } := by
    have hasSource : Token.HasSource (offset + 0) [] _ _ := .word isWord nofun
    have laidOut := LaidOut.token Text.blank_nil hasSource (.blanks Text.blank_nil)
    rw [List.nil_append, List.append_nil] at laidOut
    exact readFrom_eq_iff.mpr laidOut
  rw [readFrom_append_space tolerant (by rw [alone]), alone]

theorem relocate_prepend (place : Nat → Nat) (tokens : List Token) (stream : TokenStream) :
    (stream.prepend tokens).relocate place =
      (stream.relocate place).prepend (tokens.map (Token.relocate place)) := by
  simp [prepend, relocate]

theorem relocate_relocate (outer inner : Nat → Nat) (stream : TokenStream) :
    (stream.relocate inner).relocate outer = stream.relocate (outer ∘ inner) := by
  obtain ⟨tokens, fault⟩ := stream
  rcases fault with _ | ⟨_ | _⟩ <;>
    simp [relocate, Token.relocate, LexicalFault.relocate, Function.comp_def]

/-- Words with a space behind each add their tokens, wherever the text stands. -/
theorem relocate_readFrom_words {words : List String} (areWords : ∀ word ∈ words, Text.IsWord word)
    (tolerant : Bool) (offset : Nat) (more : List Char) :
    (readFrom tolerant offset
        (words.flatMap (fun word => word.toList ++ [' ']) ++ more)).relocate (fun _ => 0) =
      ((read tolerant more).relocate fun _ => 0).prepend (words.map (.bare .ident)) := by
  induction words generalizing offset with
  | nil =>
      have moved := readFrom_add tolerant 0 offset more
      rw [Nat.zero_add] at moved
      rw [List.flatMap_nil, List.nil_append, moved]
      exact relocate_relocate _ _ _
  | cons word words induction =>
      obtain ⟨isWord, others⟩ := List.forall_mem_cons.mp areWords
      have later := induction others (offset + word.toList.length + 1)
      have split : (word :: words).flatMap (fun word => word.toList ++ [' ']) ++ more =
          word.toList ++ ' ' :: (words.flatMap (fun word => word.toList ++ [' ']) ++ more) := by
        simp
      rw [split, readFrom_word_space isWord, relocate_prepend, later]
      rfl

end TokenStream

namespace Query

variable {settings : Settings} {field : String}

/-! ## Tests -/

private theorem not_isList_of_readText {ending : Ending} {comparison : Keyword.Comparison}
    {tokens : List Token} {reading : Reading Clause}
    (read : readText ending field comparison tokens = .ok reading) : ¬reading.value.IsList := by
  cases tokens with
  | nil => cases read
  | cons token rest =>
      simp only [readText] at read
      split at read
      · cases read
        cases comparison <;> rintro ⟨_, _, _, ⟨⟩⟩
      · cases read

private theorem not_isList_of_readRange {ending : Ending} {relation : Relation}
    {tokens : List Token} {reading : Reading Clause}
    (read : readRange ending field relation tokens = .ok reading) : ¬reading.value.IsList := by
  obtain ⟨_, _, _, chain, -, -, -, rfl⟩ := exists_of_readRange read
  rintro ⟨_, _, _, ⟨⟩⟩

/-- Where no list is read there is nothing to turn round. -/
private theorem map_negate_of_not_isList {outcome : Except Failure (Reading Clause)}
    (noList : ∀ reading, outcome = .ok reading → ¬reading.value.IsList) :
    outcome.map (Reading.map Clause.negate) = outcome := by
  cases outcome with
  | error failure => rfl
  | ok reading =>
      have same : reading.value.negate = reading.value :=
        Decidable.not_not.mp fun different =>
          noList reading rfl (reading.value.negate_ne_iff.mp different)
      simp [Except.map, Reading.map, same]

private theorem read_negated (ending : Ending) (field : String) (test : Test)
    (tokens : List Token) :
    test.read ending field true tokens =
      (test.read ending field false tokens).map (Reading.map Clause.negate) := by
  cases test with
  | oneOf =>
      simp only [Test.read, readOneOf]
      cases readClosing ending (ValueList.read false tokens).opened
        (ValueList.read false tokens).rest <;> rfl
  | text comparison => exact (map_negate_of_not_isList fun _ => not_isList_of_readText).symm
  | bounds relation => exact (map_negate_of_not_isList fun _ => not_isList_of_readRange).symm

/-- A negated test is read like the test alone, and turned round. -/
theorem readTest_negated (ending : Ending) (field : String) (tokens : List Token) :
    readTest ending field true tokens =
      (readTest ending field false tokens).map (Reading.map Clause.negate) := by
  cases tokens with
  | nil => rfl
  | cons keyword rest =>
      by_cases isKeyword : keyword.kind = .ident ∨ keyword.kind = .operator
      · cases asked : test? keyword.value with
        | some test =>
            rw [readTest_cons isKeyword asked, readTest_cons isKeyword asked]
            exact read_negated ending field test rest
        | none =>
            simp only [readTest, if_pos isKeyword, asked]
            rfl
      · simp only [readTest, if_neg isKeyword]
        rfl

/-- Behind a negation a clause is the one without it, turned round. -/
theorem readClause_of_negated {ending : Ending} {rest : List Token}
    {reading : Reading (Option Clause)} (writes : settings.WritesField field)
    (read : readClause settings ending (.bare .ident field) (.bare .ident "not" :: rest) =
      .ok reading) :
    ∃ clause reading', readClause settings ending (.bare .ident field) rest = .ok reading' ∧
      reading'.value = some clause ∧ reading.value = some clause.negate ∧
      reading.rest = reading'.rest := by
  rw [readClause_negated writes, readTest_negated] at read
  obtain ⟨negated, readNegated, rfl⟩ := exists_of_map_ok read
  obtain ⟨test, readTest, rfl⟩ := exists_of_map_ok readNegated
  refine ⟨test.value, test.map some, ?_, rfl, rfl, rfl⟩
  rw [readClause_field writes, readNegation_of_readTest ending readTest, readTest]
  rfl

/-! ## Queries -/

/-- What a query means that starts with words depends on these words and the tokens behind them. -/
theorem parse_words_iff {words : List String} (areWords : ∀ word ∈ words, Text.IsWord word)
    (more : String) (clauses : List Clause) :
    parse settings (String.ofList (words.flatMap fun word => word.toList ++ [' ']) ++ more) =
        .ok clauses ↔
      (TokenStream.read settings.tolerant more.toList).fault = none ∧
        (readClauses settings { fault := none, length := 0 }
          (words.map (.bare .ident) ++ (TokenStream.read settings.tolerant more.toList).tokens.map
            (Token.relocate fun _ => 0))).outcome = .ok clauses := by
  have same := TokenStream.relocate_readFrom_words areWords settings.tolerant 0 more.toList
  have sameTokens := congrArg TokenStream.tokens same
  have sameFault := congrArg (·.fault = none) same
  simp only [TokenStream.relocate, TokenStream.prepend, Option.map_eq_none_iff, eq_iff_iff]
    at sameTokens sameFault
  have placeless : (words.map (Token.bare .ident) ++
      (TokenStream.read settings.tolerant more.toList).tokens.map (Token.relocate fun _ => 0)).map
        (Token.relocate fun _ => 0) = words.map (Token.bare .ident) ++
      (TokenStream.read settings.tolerant more.toList).tokens.map (Token.relocate fun _ => 0) := by
    rw [List.map_append, List.map_map, List.map_map]
    rfl
  have joined : (String.ofList (words.flatMap fun word => word.toList ++ [' ']) ++ more).toList =
      words.flatMap (fun word => word.toList ++ [' ']) ++ more.toList := by
    simp
  constructor
  · intro parsed
    have outcome := outcome_of_parse parsed
    rw [run, tokens, joined] at outcome
    have whole := fault_eq_none_of_outcome outcome
    exact ⟨sameFault.mp whole, outcome_congr whole rfl (sameTokens.trans placeless.symm) outcome⟩
  · rintro ⟨whole, outcome⟩
    apply parse_of_outcome
    rw [run, tokens, joined]
    exact outcome_congr rfl (sameFault.mpr whole) (placeless.trans sameTokens.symm) outcome

/-- A query that starts with a negated test is read as the query without the negation, with the
first clause turned round; so what it means is another thing only where that clause is a list. -/
theorem parse_negated {more : String} {clauses : List Clause}
    (writes : settings.WritesField field)
    (parsed : parse settings (field ++ " not " ++ more) = .ok clauses) :
    ∃ first later, parse settings (field ++ " " ++ more) = .ok (first :: later) ∧
      clauses = first.negate :: later ∧ (clauses ≠ first :: later ↔ first.IsList) := by
  have isNot : Text.IsWord "not" := by decide +kernel
  have negated : field ++ " not " ++ more =
      String.ofList ([field, "not"].flatMap fun word => word.toList ++ [' ']) ++ more := by
    apply String.toList_inj.mp
    simp
  have plain : field ++ " " ++ more =
      String.ofList ([field].flatMap fun word => word.toList ++ [' ']) ++ more := by
    apply String.toList_inj.mp
    simp
  rw [negated, parse_words_iff (by simp [writes.isWord, isNot])] at parsed
  obtain ⟨whole, outcome⟩ := parsed
  have notPipe : (Token.bare .ident field).kind ≠ .pipe := by simp
  simp only [List.map_cons, List.map_nil, List.cons_append, List.nil_append] at outcome
  obtain ⟨reading, later, read, outcomeLater, rfl⟩ := exists_of_outcome_cons notPipe outcome
  obtain ⟨first, reading', read', isFirst, isNegated, sameRest⟩ :=
    readClause_of_negated writes read
  refine ⟨first, later, ?_, ?_, ?_⟩
  · rw [plain, parse_words_iff (by simp [writes.isWord])]
    refine ⟨whole, ?_⟩
    simp only [List.map_cons, List.map_nil, List.cons_append, List.nil_append]
    rw [readClauses_of_ok notPipe read', outcome_push, ← sameRest, outcomeLater, isFirst]
    rfl
  · rw [isNegated]
    rfl
  · rw [isNegated]
    simpa using first.negate_ne_iff

/-- A list keeps its negation. -/
theorem parse_negated_oneOf :
    parse (.ofFields ["tags"]) ("tags" ++ " not " ++ "in (a, b) | group tags") =
        .ok [.oneOf "tags" ["a", "b"] true, .group "tags"] ∧
      ∃ first later,
        parse (.ofFields ["tags"]) ("tags" ++ " " ++ "in (a, b) | group tags") =
          .ok (first :: later) ∧
        [.oneOf "tags" ["a", "b"] true, .group "tags"] = first.negate :: later ∧
        ([.oneOf "tags" ["a", "b"] true, .group "tags"] ≠ first :: later ↔ first.IsList) := by
  have writes : (Settings.ofFields ["tags"]).WritesField "tags" :=
    ⟨⟨by decide +kernel, by decide +kernel⟩, by decide +kernel⟩
  have parsed : parse (.ofFields ["tags"]) ("tags" ++ " not " ++ "in (a, b) | group tags") =
      .ok [.oneOf "tags" ["a", "b"] true, .group "tags"] := by
    decide +kernel
  exact ⟨parsed, parse_negated writes parsed⟩

/-- A comparison with a text loses it. -/
theorem parse_exact_negated :
    (Settings.ofFields ["tags"]).WritesField "tags" ∧
      parse (.ofFields ["tags"]) ("tags" ++ " not " ++ "= a") = .ok [.exact "tags" "a"] ∧
      parse (.ofFields ["tags"]) ("tags" ++ " " ++ "= a") = .ok [.exact "tags" "a"] :=
  ⟨⟨⟨by decide +kernel, by decide +kernel⟩, by decide +kernel⟩, by decide +kernel,
    by decide +kernel⟩

end Query
end PipeQuery

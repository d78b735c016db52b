import PipeQuery.Proofs.Reading.Blame
import PipeQuery.Proofs.WellFormed

/-!
# What stands in front of a test

A clause about a field starts with the field, perhaps a negation, and a keyword.  Behind them it is
read as the test that the keyword asks for (`Query.readClause_introduced`), and a list of values
comes from nowhere else (`Query.exists_introduced_of_oneOf`).
-/

namespace PipeQuery
namespace Query

/-- The tokens in front of what a field is compared with. -/
structure Introduces (settings : Settings) (word : Token) (negation : Option Token)
    (keyword : Token) : Prop where
  /-- The clause starts with a word. -/
  isWord : word.kind = .ident
  /-- The word can be the field of a comparison. -/
  names : settings.NamesField word.value
  /-- Behind the field the comparison may be negated. -/
  negates : ∀ token ∈ negation, token.kind = .ident ∧ Keyword.isNot token.value = true
  /-- The keyword is a word or an operator. -/
  isKeyword : keyword.kind = .ident ∨ keyword.kind = .operator

/-- The tokens that start with a negation are those behind it, and others are left as they are. -/
theorem exists_negation (tokens : List Token) :
    ∃ negation : Option Token, tokens = negation.toList ++ (readNegation tokens).2 ∧
      (readNegation tokens).1 = negation.isSome ∧
      ∀ token ∈ negation, token.kind = .ident ∧ Keyword.isNot token.value = true := by
  cases tokens with
  | nil => exact ⟨none, rfl, rfl, by simp⟩
  | cons token rest =>
      by_cases negates : token.kind = .ident ∧ Keyword.isNot token.value = true
      · exact ⟨some token, by simp [readNegation, negates], by simp [readNegation, negates], by
          simpa using negates⟩
      · exact ⟨none, by simp [readNegation, negates], by simp [readNegation, negates], by simp⟩

variable {settings : Settings} {word keyword : Token} {negation : Option Token}

theorem readNegation_introduced {test : Test}
    (introduces : Introduces settings word negation keyword)
    (asked : test? keyword.value = some test) (rest : List Token) :
    readNegation (negation.toList ++ keyword :: rest) = (negation.isSome, keyword :: rest) := by
  cases negation with
  | some token => simp [readNegation, introduces.negates token rfl]
  | none =>
      have unnegated : Keyword.isNot keyword.value ≠ true := by
        intro negates
        rw [test?_of_isNot negates] at asked
        cases asked
      simp [readNegation, unnegated]

/-- Behind the keyword a clause about a field is the test that the keyword asks for. -/
theorem readClause_introduced {test : Test} (introduces : Introduces settings word negation keyword)
    (asked : test? keyword.value = some test) (ending : Ending) (tokens : List Token) :
    readClause settings ending word (negation.toList ++ keyword :: tokens) =
      (test.read ending word.value negation.isSome tokens).map (Reading.map some) := by
  have admitted : settings.admits word.value = true := by
    simpa [Settings.admits] using introduces.names.admitted
  have isClause : readClause settings ending word (negation.toList ++ keyword :: tokens) =
      readWord settings ending word (negation.toList ++ keyword :: tokens) := by
    simp [readClause, introduces.isWord]
  rw [isClause, readWord_field introduces.names.free, if_pos admitted,
    readNegation_introduced introduces asked, readTest_cons introduces.isKeyword asked]

/-- Only the keyword for lists asks for one. -/
theorem test?_eq_oneOf_iff {word : String} :
    test? word = some .oneOf ↔ Keyword.isIn word = true := by
  rw [test?]
  split
  · next isIn => simp [isIn]
  · next notIn =>
      cases Keyword.comparison? word <;> simp [notIn]

/-- A word asks for bounds when it names a relation and compares with no text. -/
theorem test?_of_relation {word : String} {relation : Relation}
    (relates : Keyword.relation? word = some relation)
    (noComparison : Keyword.comparison? word = none) : test? word = some (.bounds relation) := by
  have notIn : Keyword.isIn word ≠ true := by
    intro isIn
    have spelled : Keyword.lower word = "in" := by simpa [Keyword.isIn] using isIn
    simp [Keyword.comparison?, spelled] at noComparison
  simp [test?, notIn, noComparison, relates]

/-- A clause that compares a field with a list of values starts with the keyword for lists, and the
list is read behind it. -/
theorem exists_introduced_of_oneOf {ending : Ending} {tokens : List Token}
    {reading : Reading (Option Clause)} {field : String} {values : List String} {negated : Bool}
    (read : readClause settings ending word tokens = .ok reading)
    (isList : reading.value = some (.oneOf field values negated)) :
    ∃ negation keyword rest inner, tokens = Option.toList negation ++ keyword :: rest ∧
      Introduces settings word negation keyword ∧ Keyword.isIn keyword.value = true ∧
      readOneOf ending word.value negation.isSome rest = .ok inner ∧
      reading = inner.map some := by
  unfold readClause at read
  split at read
  · next isWord =>
      rcases exists_of_readWord read with ⟨clause, isOperand, operand⟩ | ⟨inner, asked, rfl⟩ |
        ⟨free, admitted, inner, tested, rfl⟩
      · cases tokens with
        | nil =>
            obtain rfl := eq_of_settle_map operand
            cases isList
        | cons token rest =>
            cases operand
            rcases isOperand with rfl | rfl <;> cases isList
      · obtain ⟨_, _, _, requested, -, -, -, -, rfl⟩ := exists_of_readSoftware asked
        cases isList
      · obtain ⟨negation, split, negated, negates⟩ := exists_negation tokens
        obtain ⟨keyword, rest, test, behind, isKeyword, asked, inside⟩ := exists_of_readTest tested
        have names : settings.NamesField word.value :=
          ⟨by simpa [Settings.admits] using admitted, free⟩
        rw [behind] at split
        rw [negated] at inside
        cases test with
        | oneOf =>
            exact ⟨negation, keyword, rest, inner, split, ⟨isWord, names, negates, isKeyword⟩,
              test?_eq_oneOf_iff.mp asked, inside, rfl⟩
        | text comparison =>
            cases rest with
            | nil => cases inside
            | cons token rest =>
                simp only [Test.read, readText] at inside
                split at inside <;> cases inside
                cases comparison <;> cases isList
        | bounds relation =>
            obtain ⟨_, _, _, chain, -, -, -, rfl⟩ := exists_of_readRange inside
            cases isList
  · cases read
    cases isList
  · cases read

end Query
end PipeQuery

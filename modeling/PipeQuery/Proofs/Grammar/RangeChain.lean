import PipeQuery.Proofs.Grammar.Field

/-!
# What a chain of bounds is

Behind a field and a keyword for a relation the tokens up to the next pipe are a chain: the token
behind each relation is its bound, and all other tokens mean nothing.  The clause has the last bound
given for each relation; the first token in the place of a bound that is no number is refused
(`Query.readClause_chained`).
-/

namespace PipeQuery
namespace Query

/-- The tokens are relations, each with the word for its number behind it, and other tokens in
between; `given` lists the relations and numbers in order. -/
inductive Gives : List Token → List (Relation × Binary64) → Prop where
  /-- Nothing is given. -/
  | nil : Gives [] []
  /-- A token that names no relation is passed over. -/
  | passed {token : Token} {tokens : List Token} {given : List (Relation × Binary64)}
      (notPipe : token.kind ≠ .pipe) (noRelation : relation? token = none)
      (later : Gives tokens given) : Gives (token :: tokens) given
  /-- The token behind a relation is its bound, even if it names a relation. -/
  | bound {operator operand : Token} {tokens : List Token} {relation : Relation}
      {number : Binary64} {given : List (Relation × Binary64)}
      (relates : relation? operator = some relation) (isWord : operand.kind = .ident)
      (isNumber : Binary64.ofWord? operand.value = some number) (later : Gives tokens given) :
      Gives (operator :: operand :: tokens) ((relation, number) :: given)

/-- What becomes of a chain about `field` in some tokens, the first of which is a relation. -/
inductive Chained (ending : Ending) (field : String) :
    List Token → Except Failure (Reading (Option Clause)) → Prop where
  /-- The chain goes on to a pipe or to the end, and the last number for each relation counts. -/
  | complete {taken rest : List Token} {given : List (Relation × Binary64)} {bounds : Bounds}
      (gives : Gives taken given) (stopped : ∀ token ∈ rest.head?, token.kind = .pipe)
      (last : ∀ relation, bounds.get? relation = given.reverse.lookup relation) :
      Chained ending field (taken ++ rest)
        (.ok { value := some (.range field bounds), lookedAhead := true, rest })
  /-- A bound is a word that stands for no finite number. -/
  | noNumber {taken rest : List Token} {given : List (Relation × Binary64)}
      {operator operand : Token} {relation : Relation} (gives : Gives taken given)
      (relates : relation? operator = some relation) (isWord : operand.kind = .ident)
      (noNumber : Binary64.ofWord? operand.value = none) :
      Chained ending field (taken ++ operator :: operand :: rest)
        (.error
          { cause := .notANumber field operand.value, column := operand.pos, unlexed := rest })
  /-- A bound is no word; it may be a pipe. -/
  | noWord {taken rest : List Token} {given : List (Relation × Binary64)}
      {operator operand : Token} {relation : Relation} (gives : Gives taken given)
      (relates : relation? operator = some relation) (noWord : operand.kind ≠ .ident) :
      Chained ending field (taken ++ operator :: operand :: rest)
        (.error { cause := .expectedNumber field, column := operand.pos, unlexed := rest })
  /-- The query ends behind a relation. -/
  | missing {taken : List Token} {given : List (Relation × Binary64)} {operator : Token}
      {relation : Relation} (gives : Gives taken given)
      (relates : relation? operator = some relation) :
      Chained ending field (taken ++ [operator])
        (.error { cause := .expectedNumber field, column := ending.length, unlexed := [] })

theorem Gives.append {taken tokens : List Token} {earlier given : List (Relation × Binary64)}
    (gives : Gives taken earlier) (later : Gives tokens given) :
    Gives (taken ++ tokens) (earlier ++ given) := by
  induction gives with
  | nil => exact later
  | passed notPipe noRelation _ induction => exact .passed notPipe noRelation induction
  | bound relates isWord isNumber _ induction => exact .bound relates isWord isNumber induction

/-- A further bound takes the place of an earlier one for the same relation. -/
theorem get?_set_given {bounds : Bounds} {given : List (Relation × Binary64)}
    (last : ∀ relation, bounds.get? relation = given.reverse.lookup relation)
    (relation : Relation) (number : Binary64) (asked : Relation) :
    (bounds.set relation number).get? asked =
      (given ++ [(relation, number)]).reverse.lookup asked := by
  rw [Bounds.get?_set, last, List.reverse_append, List.reverse_singleton, List.singleton_append,
    List.lookup_cons]
  by_cases same : asked = relation
  · simp [same]
  · simp [same, beq_false_of_ne same]

theorem relation?_pipe {token : Token} (isPipe : token.kind = .pipe) : relation? token = none := by
  simp [relation?, Token.isText, TokenKind.isText, isPipe]

/-- Behind tokens that gave the bounds so far the rest of a chain completes it or is refused. -/
theorem chained_readChain {ending : Ending} (whole : ending.fault = none) (field : String)
    {bounds : Bounds} {tokens taken : List Token} {given : List (Relation × Binary64)}
    (gives : Gives taken given)
    (last : ∀ relation, bounds.get? relation = given.reverse.lookup relation) :
    Chained ending field (taken ++ tokens)
      ((readChain ending field bounds tokens).map
        (Reading.map fun bounds => some (.range field bounds))) := by
  -- The tokens taken grow with each step: `taken` and `given` say what the bounds so far stand for.
  fun_induction readChain ending field bounds tokens generalizing taken given with
  | case1 bounds =>
      rw [settle_of_fault whole]
      exact .complete gives (by simp) last
  | case2 bounds token rest isPipe =>
      exact .complete gives (by simpa using isPipe) last
  | case3 bounds token rest notPipe noRelation induction =>
      have onward := induction (gives.append (.passed notPipe noRelation .nil))
        (by simpa using last)
      simpa using onward
  | case4 bounds token notPipe relation relates =>
      simpa [Ending.refuse, whole, Except.map] using Chained.missing gives relates
  | case5 bounds token notPipe relation relates operand rest failure bound =>
      rw [readBound] at bound
      split at bound
      · next isWord =>
          cases isNumber : Binary64.ofWord? operand.value with
          | some number =>
              rw [isNumber] at bound
              cases bound
          | none =>
              rw [isNumber] at bound
              cases bound
              exact .noNumber gives relates isWord isNumber
      · next noWord =>
          cases bound
          exact .noWord gives relates noWord
  | case6 bounds token notPipe relation relates operand rest number bound induction =>
      obtain ⟨isWord, isNumber⟩ := word_of_readBound bound
      have onward := induction (gives.append (.bound relates isWord isNumber .nil))
        (get?_set_given last relation number)
      simpa using onward

/-- The keyword starts the chain as any relation in it does. -/
theorem readRange_eq_readChain {keyword : Token} {relation : Relation}
    (relates : relation? keyword = some relation) (ending : Ending) (field : String)
    (tokens : List Token) :
    readRange ending field relation tokens =
      (readChain ending field .empty (keyword :: tokens)).map (Reading.map (.range field)) := by
  have notPipe : keyword.kind ≠ .pipe := by
    intro isPipe
    rw [relation?_pipe isPipe] at relates
    cases relates
  cases tokens with
  | nil => simp [readRange, readChain, notPipe, relates, Except.map]
  | cons operand rest =>
      cases bound : readBound field operand rest with
      | error failure =>
          simp [readRange, readChain, notPipe, relates, bound, bind, Except.bind, Except.map]
      | ok number =>
          simp only [readRange, readChain, if_neg notPipe, relates, bound, bind, Except.bind]
          cases readChain ending field (Bounds.empty.set relation number) rest <;> rfl

/-- Behind a field and a keyword that names a relation, and no comparison with a text, the keyword
and the tokens behind it are a chain of bounds. -/
theorem readClause_chained {settings : Settings} {ending : Ending} {word keyword : Token}
    {negation : Option Token} {relation : Relation}
    (introduces : Introduces settings word negation keyword)
    (relates : Keyword.relation? keyword.value = some relation)
    (noComparison : Keyword.comparison? keyword.value = none) (whole : ending.fault = none)
    (tokens : List Token) :
    Chained ending word.value (keyword :: tokens)
      (readClause settings ending word (negation.toList ++ keyword :: tokens)) := by
  have isRelation : relation? keyword = some relation := by
    rcases introduces.isKeyword with kind | kind <;>
      simp [relation?, Token.isText, TokenKind.isText, kind, relates]
  rw [readClause_introduced introduces (test?_of_relation relates noComparison), Test.read,
    readRange_eq_readChain isRelation, map_map_reading]
  exact chained_readChain whole word.value .nil (by simp)

/-- A string that spells a relation is one, and a pipe in the place of its bound is refused. -/
theorem readClause_chained_refused :
    let settings := Settings.ofFields ["severity"]
    let ending : Ending := { fault := none, length := 27 }
    let word : Token := { kind := .ident, value := "severity", pos := 0 }
    let keyword : Token := { kind := .operator, value := ">", pos := 9 }
    let list : List Token :=
      [{ kind := .ident, value := "5", pos := 11 }, { kind := .ident, value := "and", pos := 13 },
        { kind := .string, value := "LT", pos := 18 }, { kind := .ident, value := "7", pos := 22 },
        { kind := .operator, value := ">", pos := 24 }, { kind := .pipe, value := "|", pos := 26 }]
    Introduces settings word none keyword ∧ Keyword.relation? keyword.value = some .gt ∧
      Keyword.comparison? keyword.value = none ∧ ending.fault = none ∧
      Chained ending "severity" (keyword :: list)
        (.error { cause := .expectedNumber "severity", column := 26, unlexed := [] }) := by
  intro settings ending word keyword list
  have introduces : Introduces settings word none keyword :=
    { isWord := rfl
      names := ⟨by decide +kernel, by decide +kernel⟩
      negates := by decide +kernel
      isKeyword := .inr rfl }
  have relates : Keyword.relation? keyword.value = some .gt := by decide +kernel
  have noComparison : Keyword.comparison? keyword.value = none := by decide +kernel
  have outcome : readClause settings ending word (keyword :: list) =
      .error { cause := .expectedNumber "severity", column := 26, unlexed := [] } := by
    decide +kernel
  have whole : ending.fault = none := rfl
  have chained := readClause_chained introduces relates noComparison whole list
  exact ⟨introduces, relates, noComparison, whole, outcome ▸ chained⟩

end Query
end PipeQuery

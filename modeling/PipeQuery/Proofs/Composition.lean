import PipeQuery.Proofs.Reading.Locality
import PipeQuery.Proofs.Reading.Relocation
import PipeQuery.Proofs.Token.Resumption

/-!
# Queries joined by a pipe

A query that can be read, a pipe and any other query: read together they give the clauses of the one
and then whatever the other gives, its refusal included, only further to the right
(`Query.parse_append_pipe`).  The first query must not end where a pipe would belong to its last
clause.
-/

namespace PipeQuery
namespace Query

/-- A clause that is read is the same in front of tokens that go on with a pipe, unless the last
token before the pipe absorbs it. -/
theorem readClause_append_pipe {settings : Settings} {ending : Ending} {token pipe : Token}
    {rest : List Token} {reading : Reading (Option Clause)} (isPipe : pipe.kind = .pipe)
    (read : readClause settings ending token rest = .ok reading)
    (apart : ∀ last ∈ (token :: rest).getLast?, ¬last.AbsorbsPipe) (ending' : Ending)
    (more : List Token) :
    readClause settings ending' token (rest ++ pipe :: more) =
      .ok { reading with rest := reading.rest ++ pipe :: more } := by
  obtain ⟨taken, stops, took, stopped⟩ := exists_took_of_readClause read
  have halts : Halts stops ending' (reading.rest ++ pipe :: more) := by
    cases left : reading.rest with
    | cons first others => exact took.halted first (by rw [left]; rfl)
    | nil =>
        rcases stopped with stopped | ⟨last, isLast, absorbs⟩
        · simpa [Halts, isPipe] using stopped
        · have whole : rest = taken := by
            rw [took.split, left, List.append_nil]
          rw [← whole] at isLast
          exact absurd absorbs (apart last isLast)
  have again := took.again ending' _ halts
  rw [← List.append_assoc, ← took.split] at again
  exact again

/-- Tokens that are read into clauses, a pipe and other tokens: the clauses come first, and then
what the other tokens give. -/
theorem readClauses_append_pipe {settings : Settings} {ending : Ending} {pipe : Token}
    {tokens : List Token} {clauses : List Clause} (isPipe : pipe.kind = .pipe)
    (outcome : (readClauses settings ending tokens).outcome = .ok clauses)
    (apart : ∀ last ∈ tokens.getLast?, ¬last.AbsorbsPipe) (ending' : Ending)
    (more : List Token) :
    (readClauses settings ending' (tokens ++ pipe :: more)).outcome =
      (readClauses settings ending' more).outcome.map (clauses ++ ·) := by
  fun_induction readClauses settings ending tokens generalizing clauses with
  | case1 =>
      cases outcome
      rw [List.nil_append, readClauses_pipe _ _ _ isPipe]
      cases (readClauses settings ending' more).outcome <;> rfl
  | case2 => cases outcome
  | case3 token rest isPipe' induction =>
      rw [List.cons_append, readClauses_pipe _ _ _ isPipe']
      apply induction outcome
      intro last isLast
      exact apart last (by rw [List.getLast?_cons, isLast]; rfl)
  | case4 token rest notPipe reading read induction =>
      obtain ⟨later, inner, rfl⟩ := exists_of_outcome_push outcome
      have apartLater : ∀ last ∈ reading.rest.getLast?, ¬last.AbsorbsPipe := by
        intro last isLast
        obtain ⟨taken, split⟩ := suffix_of_readClause read
        apply apart last
        rw [← split, ← List.cons_append, List.getLast?_append, isLast]
        rfl
      rw [List.cons_append,
        readClauses_of_ok notPipe (readClause_append_pipe isPipe read apart ending' more),
        outcome_push, induction inner apartLater]
      cases (readClauses settings ending' more).outcome with
      | error failure => rfl
      | ok last => exact congrArg Except.ok (List.append_assoc ..).symm
  | case5 => cases outcome

/-- The tokens of two queries joined by a pipe. -/
theorem tokens_append_pipe {settings : Settings} {front : String}
    (strict : settings.tolerant = false) (whole : (tokens settings front).fault = none)
    (back : String) :
    tokens settings (front ++ "|" ++ back) =
      ((tokens settings back).relocate (· + (front.length + 1))).prepend
        ((tokens settings front).tokens ++
          [{ kind := .pipe, value := "|", pos := front.length }]) := by
  have joined : (front ++ "|" ++ back).toList = front.toList ++ '|' :: back.toList := by simp
  have made : (Token.scan false front.length ('|' :: back.toList)).outcome =
      .ok (some { kind := .pipe, value := "|", pos := front.length }) := rfl
  have pipeRead := TokenStream.readFrom_of_token made
  have moved := TokenStream.readFrom_add false 0 (front.length + 1) back.toList
  have scanned : Token.scan false front.length ('|' :: back.toList) =
      Scan.plain .pipe ['|'] front.length back.toList := rfl
  simp only [tokens, TokenStream.read, strict] at whole ⊢
  rw [joined, TokenStream.readFrom_append false whole (by simp [Text.isBreak, Text.isPunctuation]),
    Nat.zero_add, String.length_toList, pipeRead, scanned]
  rw [Nat.zero_add] at moved
  simp [Scan.plain, moved, TokenStream.prepend, TokenStream.push]

/-- The outcome of two queries joined by a pipe. -/
theorem run_append_pipe {settings : Settings} {front : String} {clauses : List Clause}
    (strict : settings.tolerant = false) (parsed : (run settings front).outcome = .ok clauses)
    (apart : ∀ last ∈ (tokens settings front).tokens.getLast?, ¬last.AbsorbsPipe)
    (back : String) :
    (run settings (front ++ "|" ++ back)).outcome =
      ((run settings back).outcome.mapError (Failure.relocate (· + (front.length + 1)))).map
        (clauses ++ ·) := by
  have whole := fault_eq_none_of_outcome parsed
  have joined := tokens_append_pipe strict whole back
  have width : (front ++ "|" ++ back).toList.length = back.toList.length + (front.length + 1) := by
    simp only [String.toList_append, List.length_append, String.length_toList]
    have single : "|".length = 1 := rfl
    omega
  simp only [run] at parsed ⊢
  rw [joined, width]
  simp only [TokenStream.prepend, List.append_assoc, List.cons_append, List.nil_append]
  rw [readClauses_append_pipe rfl parsed apart, ← outcome_relocate, ← readClauses_relocate]
  rfl

end Query

/-- Only a message about a control character names an offset. -/
theorem Cause.message_relocate {cause : Cause} (place : Nat → Nat)
    (named : ∀ character offset, cause ≠ .lexical (.unlexable character offset)) :
    (cause.relocate place).message = cause.message := by
  cases cause with
  | lexical fault =>
      cases fault with
      | unlexable character offset => exact absurd rfl (named character offset)
      | unclosedString => rfl
  | _ => rfl

namespace Query

/-- A query that is read, joined by a pipe to any other one, gives its clauses and then those of the
other; or the other's refusal, moved to the right by the query in front and the pipe. -/
theorem parse_append_pipe {settings : Settings} {front : String} {clauses : List Clause}
    (strict : settings.tolerant = false) (parsed : parse settings front = .ok clauses)
    (apart : ∀ last ∈ (tokens settings front).tokens.getLast?, ¬last.AbsorbsPipe)
    (back : String) :
    (∀ more, parse settings back = .ok more →
      parse settings (front ++ "|" ++ back) = .ok (clauses ++ more)) ∧
    (∀ diagnostic, parse settings back = .error diagnostic →
      ∃ diagnostic', parse settings (front ++ "|" ++ back) = .error diagnostic' ∧
        diagnostic'.cause.code = diagnostic.cause.code ∧
        diagnostic'.column = diagnostic.column + (front.length + 1) ∧
        diagnostic'.cause = diagnostic.cause.relocate (· + (front.length + 1)) ∧
        ((∀ character offset, diagnostic.cause ≠ .lexical (.unlexable character offset)) →
          diagnostic'.message = diagnostic.message)) := by
  have joined := run_append_pipe strict (outcome_of_parse parsed) apart back
  constructor
  · intro more read
    rw [outcome_of_parse read] at joined
    exact parse_of_outcome joined
  · intro diagnostic refused
    obtain ⟨failure, outcome, rfl⟩ := exists_failure_of_parse refused
    rw [outcome] at joined
    refine ⟨(failure.relocate (· + (front.length + 1))).diagnose (front ++ "|" ++ back),
      ?_, ?_, ?_, ?_, ?_⟩
    · rw [parse, joined]
      rfl
    · exact Cause.code_relocate ..
    · rfl
    · rfl
    · exact Cause.message_relocate _

/-- A comparison without its text, behind a query of twelve characters and a pipe. -/
theorem parse_exact_pipe_missing_number :
    (∀ more, parse (.ofFields ["severity", "tags"]) "tags >" = .ok more →
      parse (.ofFields ["severity", "tags"]) "tags = \"a|b\"|tags >" =
        .ok ([.exact "tags" "a|b"] ++ more)) ∧
    (∀ diagnostic, parse (.ofFields ["severity", "tags"]) "tags >" = .error diagnostic →
      ∃ diagnostic',
        parse (.ofFields ["severity", "tags"]) "tags = \"a|b\"|tags >" = .error diagnostic' ∧
        diagnostic'.cause.code = diagnostic.cause.code ∧
        diagnostic'.column = diagnostic.column + 13 ∧
        diagnostic'.cause = diagnostic.cause.relocate (· + 13) ∧
        ((∀ character offset, diagnostic.cause ≠ .lexical (.unlexable character offset)) →
          diagnostic'.message = diagnostic.message)) :=
  @parse_append_pipe (.ofFields ["severity", "tags"]) "tags = \"a|b\"" _ rfl
    (by decide +kernel) (by decide +kernel) "tags >"

end Query
end PipeQuery

import PipeQuery.Proofs.Reading.Blame
import PipeQuery.Proofs.Reading.Continuation
import PipeQuery.Proofs.Token.Cut
import PipeQuery.Proofs.Token.Fault
import PipeQuery.Proofs.Token.Iteration

/-!
# Faults in the text of a query

Whether a query is read from its text or its tokens are listed first, the same fault shows: a query
with a fault in its text is refused, for that fault or for a token in front of it, and a query
without one is never refused for its text (`Query.parse_fault`).
-/

namespace PipeQuery

namespace TokenStream

/-- A fault of a text stands at an offset: the text in front of it has the same tokens and no fault,
and there stands a control character or the quote of a text that nothing closes. -/
inductive FaultAt (tolerant : Bool) (text : List Char) : LexicalFault → Nat → Prop where
  /-- A control character. -/
  | control {front rest : List Char} {c : Char} (split : text = front ++ c :: rest)
      (isControl : Text.isControl c = true)
      (before : read tolerant front = { read tolerant text with fault := none }) :
      FaultAt tolerant text (.unlexable c front.length) front.length
  /-- The quote of an unclosed text. -/
  | quote {front body : List Char} (split : text = front ++ Text.Quoted.quote :: body)
      (unclosed : (Text.Quoted.read false body).closed = false)
      (before : read tolerant front = { read tolerant text with fault := none }) :
      FaultAt tolerant text .unclosedString front.length

/-- Every fault stands somewhere, with all tokens in front of it. -/
theorem exists_faultAt {tolerant : Bool} {text : List Char} {fault : LexicalFault}
    (found : (read tolerant text).fault = some fault) :
    ∃ offset, FaultAt tolerant text fault offset ∧
      ∀ token ∈ (read tolerant text).tokens, token.pos < offset := by
  have same := read_of_fault found
  obtain ⟨front, split, faulty, onward⟩ := exists_front_of_unread 0 text
  have before : ∀ tolerant', read tolerant' front = { read tolerant text with fault := none } := by
    intro tolerant'
    have cut := onward tolerant' [] nofun
    rw [List.append_nil, readFrom_nil] at cut
    rw [same, read, cut, prepend, List.append_nil]
    rfl
  have left : ∀ token ∈ (read tolerant text).tokens, token.pos < front.length := by
    intro token member
    have within : token ∈ (readFrom false 0 front).tokens := by
      rw [← read, before false]
      exact member
    simpa using pos_lt_of_mem_readFrom within
  have met : (readFrom false 0 text).fault = some fault := by
    rw [← found, same]
    rfl
  rw [met, Nat.zero_add] at faulty
  refine ⟨front.length, ?_, left⟩
  generalize unreadFrom 0 text = behind at split faulty
  cases faulty with
  | control isControl => exact .control split isControl (before tolerant)
  | unclosed unclosed => exact .quote split unclosed (before tolerant)

end TokenStream

namespace Query

/-- A failure for the tokens in front of a fault is placed at one of them. -/
theorem exists_token_of_fault {settings : Settings} {ending : Ending} {tokens : List Token}
    {fault : LexicalFault} {failure : Failure} (faulty : ending.fault = some fault)
    (failed : (readClauses settings ending tokens).outcome = .error failure)
    (grammatical : failure.cause.isLexical = false) :
    ∃ token ∈ tokens, failure.column = token.pos := by
  obtain ⟨failure', failed', verdict⟩ := outcome_of_fault faulty settings tokens
  obtain rfl := Except.error.inj (failed.symm.trans failed')
  rcases verdict with settled | same
  · rw [isLexical_of_settle settled] at grammatical
    cases grammatical
  · -- A query that ends further away is refused at the same place, hence not at its end.
    have elsewhere := same { fault := none, length := failure.column + 1 } []
    rw [List.append_nil] at elsewhere
    cases blames_of_readClauses elsewhere with
    | lexical _ settled => cases settled
    | atEnd column => exact absurd column (Nat.ne_of_lt (Nat.lt_succ_self _))
    | atToken before token after split column => exact ⟨token, by simp [split], column⟩

/-- Reading a query and iterating over its tokens agree on the fault in its text.  A query that is
read has none.  A query that is refused for its text has that very fault, and one that is refused
for another reason has either none or one behind the place to blame. -/
theorem parse_fault (settings : Settings) (query : String) :
    match parse settings query,
      ((TokenReader.ofText query).withTolerance settings.tolerant).drain.2.1 with
    | .ok _, fault? => fault? = none
    | .error diagnostic, none => diagnostic.cause.isLexical = false
    | .error diagnostic, some fault =>
        diagnostic.cause = .lexical fault ∧ diagnostic.column = fault.column query.length ∨
          diagnostic.cause.isLexical = false ∧ ∃ offset,
            TokenStream.FaultAt settings.tolerant query.toList fault offset ∧
              diagnostic.column < offset := by
  have drained : ((TokenReader.ofText query).withTolerance settings.tolerant).drain.2.1 =
      (tokens settings query).fault :=
    (TokenReader.drain_of_ready ⟨rfl, rfl⟩).2
  rw [drained]
  cases parsed : parse settings query with
  | ok clauses => exact fault_eq_none_of_outcome (outcome_of_parse parsed)
  | error diagnostic =>
      obtain ⟨failure, outcome, rfl⟩ := exists_failure_of_parse parsed
      cases isLexical : failure.cause.isLexical with
      | true =>
          obtain ⟨fault, found, rfl⟩ := exists_of_settle (settle_of_lexical outcome isLexical)
          have found' : (tokens settings query).fault = some fault := found
          rw [found']
          exact .inl ⟨rfl, congrArg (LexicalFault.column · fault) String.length_toList⟩
      | false =>
          cases found : (tokens settings query).fault with
          | none => exact isLexical
          | some fault =>
              obtain ⟨token, member, column⟩ := exists_token_of_fault found outcome isLexical
              obtain ⟨offset, stands, left⟩ := TokenStream.exists_faultAt found
              refine .inr ⟨isLexical, offset, stands, ?_⟩
              exact Nat.lt_of_le_of_lt (Nat.le_of_eq column) (left token member)

/-- The word is refused before the text behind it is found to be unclosed. -/
example : parse .default "id = \"x" =
    .error (.locate (.invalidField "id") 0 "id = \"x".toList) := by
  decide +kernel

end Query
end PipeQuery

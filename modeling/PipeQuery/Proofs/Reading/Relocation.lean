import PipeQuery.Proofs.Token.Relocation
import PipeQuery.Query.Run

/-!
# Readers do not look at places

No reader compares offsets or looks into a fault: with its tokens at other places and another fault
behind them a reader leaves the same tokens and fails for the same cause, at these places and with
that fault.  The main statements here are `Query.readClauses_moved` and, for places alone,
`Query.readClauses_relocate`; with them, what is read from some tokens depends on their kinds and
values alone.
-/

namespace PipeQuery

/-- The same cause with another offset in it, if it names one. -/
def Cause.relocate (place : Nat → Nat) : Cause → Cause
  | lexical fault => lexical (fault.relocate place)
  | cause => cause

namespace Cause

@[simp]
theorem code_relocate (place : Nat → Nat) (cause : Cause) :
    (cause.relocate place).code = cause.code := by
  cases cause with
  | lexical fault => cases fault <;> rfl
  | _ => rfl

end Cause

namespace Query

/-- Other places for the offsets of a query, and other faults for the one in its text. -/
structure Move where
  /-- Where an offset goes. -/
  place : Nat → Nat
  /-- What becomes of a fault. -/
  fault : LexicalFault → LexicalFault
  /-- A fault is reported where its column goes. -/
  column_fault : ∀ length original,
    (fault original).column (place length) = place (original.column length)

/-- Other places, with the same faults there. -/
def Move.ofPlace (place : Nat → Nat) : Move where
  place := place
  fault := LexicalFault.relocate place
  column_fault := LexicalFault.column_relocate place

end Query

/-- The same cause with another fault in it, if it is one. -/
def Cause.moved (move : Query.Move) : Cause → Cause
  | lexical fault => lexical (move.fault fault)
  | cause => cause

namespace Query

/-- The same failure in a moved query. -/
def Failure.moved (move : Move) (failure : Failure) : Failure :=
  { cause := failure.cause.moved move
    column := move.place failure.column
    unlexed := failure.unlexed.map (Token.relocate move.place) }

/-- The same ending in a moved query. -/
def Ending.moved (move : Move) (ending : Ending) : Ending :=
  { fault := ending.fault.map move.fault, length := move.place ending.length }

/-- The same reading with the tokens left at other places. -/
def Reading.relocate {α : Type} (place : Nat → Nat) (reading : Reading α) : Reading α :=
  { reading with rest := reading.rest.map (Token.relocate place) }

/-- What reading moved tokens gives. -/
def movedOutcome {α : Type} (move : Move) :
    Except Failure (Reading α) → Except Failure (Reading α)
  | .ok reading => .ok (reading.relocate move.place)
  | .error failure => .error (failure.moved move)

/-- What a run over a moved query does. -/
def Run.moved (move : Move) (run : Run) : Run :=
  { completed := run.completed.map fun completed =>
      { completed with unlexed := completed.unlexed.map (Token.relocate move.place) }
    failure := run.failure.map (Failure.moved move) }

variable (move : Move)

@[simp]
theorem movedOutcome_ok {α : Type} (reading : Reading α) :
    movedOutcome move (.ok reading) = .ok (reading.relocate move.place) := rfl

@[simp]
theorem movedOutcome_error {α : Type} (failure : Failure) :
    movedOutcome (α := α) move (.error failure) = .error (failure.moved move) := rfl

theorem movedOutcome_map {α β : Type} (f : α → β) (outcome : Except Failure (Reading α)) :
    movedOutcome move (outcome.map (Reading.map f)) =
      (movedOutcome move outcome).map (Reading.map f) := by
  cases outcome <;> rfl

theorem blame_moved {cause : Cause} (grammatical : cause.isLexical = false) (token : Token)
    (unlexed : List Token) :
    Failure.blame (token.relocate move.place) cause (unlexed.map (Token.relocate move.place)) =
      (Failure.blame token cause unlexed).moved move := by
  cases cause with
  | lexical => cases grammatical
  | _ => rfl

theorem refuse_moved {cause : Cause} (grammatical : cause.isLexical = false)
    (ending : Ending) :
    (ending.moved move).refuse cause = (ending.refuse cause).moved move := by
  obtain ⟨fault, length⟩ := ending
  cases fault with
  | none =>
      cases cause with
      | lexical => cases grammatical
      | _ => rfl
  | some fault =>
      simp [Ending.moved, Ending.refuse, Failure.moved, Cause.moved, move.column_fault]

/-- A reader that ends with the tokens, unless a fault stands behind them. -/
theorem settle_moved {α : Type} (ending : Ending) (value : α) :
    ((ending.moved move).settle.map fun _ =>
        ({ value, lookedAhead := true, rest := [] } : Reading α)) =
      movedOutcome move
        (ending.settle.map fun _ => { value, lookedAhead := true, rest := [] }) := by
  obtain ⟨fault, length⟩ := ending
  cases fault with
  | none => rfl
  | some fault =>
      simp [Ending.moved, Ending.settle, Except.map, Failure.moved, Cause.moved,
        move.column_fault]

theorem readClosing_moved (ending : Ending) (required : Bool) (tokens : List Token) :
    readClosing (ending.moved move) required (tokens.map (Token.relocate move.place)) =
      movedOutcome move (readClosing ending required tokens) := by
  cases tokens with
  | nil =>
      cases required with
      | true => exact congrArg Except.error (refuse_moved move rfl ending)
      | false => exact settle_moved move ending ()
  | cons token rest =>
      by_cases closes : token.kind = .closeParen
      · simp only [List.map_cons, readClosing, Token.relocate_kind, closes, if_true]
        rfl
      · simp only [List.map_cons, readClosing, Token.relocate_kind, closes, if_false]
        cases required with
        | true => exact congrArg Except.error (blame_moved move rfl token rest)
        | false => rfl

theorem ValueList.read_moved (afterComma : Bool) (tokens : List Token) :
    ValueList.read afterComma (tokens.map (Token.relocate move.place)) =
      { ValueList.read afterComma tokens with
        rest := (ValueList.read afterComma tokens).rest.map (Token.relocate move.place) } := by
  induction tokens generalizing afterComma with
  | nil => rfl
  | cons token rest induction =>
      simp only [List.map_cons, ValueList.read, Token.relocate_kind, Token.relocate_value]
      by_cases ends : (token.kind.endsList && !afterComma) = true
      · simp only [ends, if_true, List.map_cons]
      · simp only [ends, Bool.false_eq_true, if_false]
        cases token.kind <;> simp only [induction, ValueList.push]

theorem readOneOf_moved (ending : Ending) (field : String) (negated : Bool)
    (tokens : List Token) :
    readOneOf (ending.moved move) field negated (tokens.map (Token.relocate move.place)) =
      movedOutcome move (readOneOf ending field negated tokens) := by
  simp only [readOneOf, ValueList.read_moved, movedOutcome_map, readClosing_moved]

theorem readBound_moved (field : String) (token : Token) (unlexed : List Token) :
    readBound field (token.relocate move.place) (unlexed.map (Token.relocate move.place)) =
      (readBound field token unlexed).mapError (Failure.moved move) := by
  by_cases isWord : token.kind = .ident
  · simp only [readBound, Token.relocate_kind, Token.relocate_value, isWord, if_true]
    cases Binary64.ofWord? token.value with
    | some value => rfl
    | none => rfl
  · simp only [readBound, Token.relocate_kind, isWord, if_false]
    rfl

theorem relation?_moved (token : Token) :
    relation? (token.relocate move.place) = relation? token := rfl

theorem readChain_moved (ending : Ending) (field : String) (bounds : Bounds)
    (tokens : List Token) :
    readChain (ending.moved move) field bounds (tokens.map (Token.relocate move.place)) =
      movedOutcome move (readChain ending field bounds tokens) := by
  fun_induction readChain ending field bounds tokens with
  | case1 bounds => exact settle_moved move ending bounds
  | case2 bounds token rest isPipe =>
      rw [List.map_cons, readChain, if_pos (by exact isPipe)]
      rfl
  | case3 bounds token rest notPipe noRelation induction =>
      rw [List.map_cons, readChain, if_neg (by exact notPipe), relation?_moved, noRelation]
      exact induction
  | case4 bounds token notPipe relation isRelation =>
      rw [List.map_cons, readChain, if_neg (by exact notPipe), relation?_moved, isRelation]
      exact congrArg Except.error (refuse_moved move rfl ending)
  | case5 bounds token notPipe relation isRelation operand rest failure failed =>
      rw [List.map_cons, readChain, if_neg (by exact notPipe), relation?_moved, isRelation]
      simp only [List.map_cons, readBound_moved, failed]
      rfl
  | case6 bounds token notPipe relation isRelation operand rest value read induction =>
      rw [List.map_cons, readChain, if_neg (by exact notPipe), relation?_moved, isRelation]
      simp only [List.map_cons, readBound_moved, read]
      exact induction

theorem readRange_moved (ending : Ending) (field : String) (relation : Relation)
    (tokens : List Token) :
    readRange (ending.moved move) field relation (tokens.map (Token.relocate move.place)) =
      movedOutcome move (readRange ending field relation tokens) := by
  cases tokens with
  | nil => exact congrArg Except.error (refuse_moved move rfl ending)
  | cons operand rest =>
      simp only [readRange, List.map_cons, readBound_moved]
      cases readBound field operand rest with
      | error failure => rfl
      | ok value =>
          have kept : (Except.ok value).mapError (Failure.moved move) = .ok value := rfl
          simp only [kept, bind, Except.bind, readChain_moved]
          cases readChain ending field (Bounds.empty.set relation value) rest <;> rfl

theorem readConstraint_moved (relation version : Token) (unlexed : List Token) :
    readConstraint (relation.relocate move.place) (version.relocate move.place)
        (unlexed.map (Token.relocate move.place)) =
      (readConstraint relation version unlexed).mapError (Failure.moved move) := by
  by_cases isText : version.isText = true
  · simp only [readConstraint, Token.relocate_isText, Token.relocate_value, isText, if_true]
    cases Keyword.relation? relation.value <;> rfl
  · simp only [readConstraint, Token.relocate_isText, isText, Bool.false_eq_true, if_false]
    rfl

theorem readEntries_moved (ending : Ending) (current? : Option Software)
    (tokens : List Token) :
    readEntries (ending.moved move) current? (tokens.map (Token.relocate move.place)) =
      movedOutcome move (readEntries ending current? tokens) := by
  fun_induction readEntries ending current? tokens with
  | case1 => exact congrArg Except.error (refuse_moved move rfl ending)
  | case2 current => exact settle_moved move ending [current]
  | case3 token rest isComma induction =>
      rw [List.map_cons, readEntries_none_cons, if_pos (by exact isComma)]
      exact induction
  | case4 token rest notComma isText induction =>
      rw [List.map_cons, readEntries_none_cons, if_neg (by exact notComma),
        if_pos (by exact isText)]
      exact induction
  | case5 token rest notComma notText =>
      rw [List.map_cons, readEntries_none_cons, if_neg (by exact notComma),
        if_neg (by exact notText)]
      rfl
  | case6 token rest current ends =>
      rw [List.map_cons, readEntries_some_cons, if_pos (by exact ends)]
      rfl
  | case7 token rest current goesOn isComma induction =>
      rw [List.map_cons, readEntries_some_cons, if_neg (by exact goesOn),
        if_pos (by exact isComma), induction, movedOutcome_map]
  | case8 token current goesOn notComma =>
      rw [List.map_cons, readEntries_some_cons, if_neg (by exact goesOn),
        if_neg (by exact notComma)]
      exact congrArg Except.error (refuse_moved move rfl ending)
  | case9 token current goesOn notComma version rest failure failed =>
      rw [List.map_cons, readEntries_some_cons, if_neg (by exact goesOn),
        if_neg (by exact notComma)]
      simp only [List.map_cons, readConstraint_moved, failed]
      rfl
  | case10 token current goesOn notComma version rest constraint read induction =>
      rw [List.map_cons, readEntries_some_cons, if_neg (by exact goesOn),
        if_neg (by exact notComma)]
      simp only [List.map_cons, readConstraint_moved, read]
      exact induction

theorem readRequested_moved (ending : Ending) (fuzzy opened : Bool) (tokens : List Token) :
    readRequested (ending.moved move) fuzzy opened (tokens.map (Token.relocate move.place)) =
      movedOutcome move (readRequested ending fuzzy opened tokens) := by
  cases tokens with
  | nil => exact congrArg Except.error (refuse_moved move rfl ending)
  | cons token rest =>
      have entries := readEntries_moved move ending none (token :: rest)
      have reference : isListReference (token.relocate move.place) = isListReference token := rfl
      rw [List.map_cons] at entries
      simp only [readRequested, List.map_cons, Token.relocate_isText, entries, reference]
      cases token.isText with
      | false => rfl
      | true =>
          cases isListReference token with
          | true =>
              simp only [if_true, movedOutcome_map, readClosing_moved]
              rfl
          | false =>
              cases readEntries ending none (token :: rest) with
              | error failure => rfl
              | ok entries =>
                  simp only [movedOutcome, bind, Except.bind, Reading.relocate, if_true,
                    Bool.false_eq_true, if_false, readClosing_moved]
                  cases readClosing ending opened entries.rest <;> rfl

theorem readOpening_moved (tokens : List Token) :
    readOpening (tokens.map (Token.relocate move.place)) =
      ((readOpening tokens).1, (readOpening tokens).2.map (Token.relocate move.place)) := by
  cases tokens with
  | nil => rfl
  | cons token rest =>
      by_cases opens : token.kind = .openParen
      · simp only [readOpening, List.map_cons, Token.relocate_kind, opens, if_true]
      · simp only [readOpening, List.map_cons, Token.relocate_kind, opens, if_false]

theorem readSoftware_moved (ending : Ending) (tokens : List Token) :
    readSoftware (ending.moved move) (tokens.map (Token.relocate move.place)) =
      movedOutcome move (readSoftware ending tokens) := by
  cases tokens with
  | nil => exact congrArg Except.error (refuse_moved move rfl ending)
  | cons keyword rest =>
      by_cases isKeyword : (keyword.isText || keyword.kind = .operator) = true
      · rw [List.map_cons, readSoftware, readSoftware, if_pos (by exact isKeyword),
          if_pos isKeyword, Token.relocate_value]
        cases Keyword.comparison? keyword.value with
        | none => rfl
        | some comparison =>
            simp only [readOpening_moved, readRequested_moved, movedOutcome_map]
      · rw [List.map_cons, readSoftware, readSoftware, if_neg (by exact isKeyword),
          if_neg isKeyword]
        rfl

theorem readText_moved (ending : Ending) (field : String) (comparison : Keyword.Comparison)
    (tokens : List Token) :
    readText (ending.moved move) field comparison (tokens.map (Token.relocate move.place)) =
      movedOutcome move (readText ending field comparison tokens) := by
  cases tokens with
  | nil => exact congrArg Except.error (refuse_moved move rfl ending)
  | cons token rest =>
      by_cases isText : token.isText = true
      · simp only [readText, List.map_cons, Token.relocate_isText, isText, if_true]
        rfl
      · simp only [readText, List.map_cons, Token.relocate_isText, isText, Bool.false_eq_true,
          if_false]
        rfl

theorem readTest_moved (ending : Ending) (field : String) (negated : Bool)
    (tokens : List Token) :
    readTest (ending.moved move) field negated (tokens.map (Token.relocate move.place)) =
      movedOutcome move (readTest ending field negated tokens) := by
  cases tokens with
  | nil => exact congrArg Except.error (refuse_moved move rfl ending)
  | cons keyword rest =>
      by_cases isKeyword : keyword.kind = .ident ∨ keyword.kind = .operator
      · simp only [readTest, List.map_cons, Token.relocate_kind, Token.relocate_value, isKeyword,
          if_true]
        cases test? keyword.value with
        | none => rfl
        | some test =>
            cases test with
            | oneOf => exact readOneOf_moved ..
            | text comparison => exact readText_moved ..
            | bounds relation => exact readRange_moved ..
      · simp only [readTest, List.map_cons, Token.relocate_kind, Token.relocate_value, isKeyword,
          if_false]
        rfl

theorem readOperand_moved (ending : Ending) (clause : String → Clause)
    (tokens : List Token) :
    readOperand (ending.moved move) clause (tokens.map (Token.relocate move.place)) =
      movedOutcome move (readOperand ending clause tokens) := by
  cases tokens with
  | nil => exact settle_moved move ending none
  | cons token rest => rfl

theorem readNegation_moved (tokens : List Token) :
    readNegation (tokens.map (Token.relocate move.place)) =
      ((readNegation tokens).1, (readNegation tokens).2.map (Token.relocate move.place)) := by
  cases tokens with
  | nil => rfl
  | cons token rest =>
      by_cases negates : token.kind = .ident ∧ Keyword.isNot token.value = true
      · simp only [readNegation, List.map_cons, Token.relocate_kind, Token.relocate_value,
          negates, and_self, if_true]
      · simp only [readNegation, List.map_cons, Token.relocate_kind, Token.relocate_value,
          negates, if_false]

theorem readWord_moved (settings : Settings) (ending : Ending) (word : Token)
    (rest : List Token) :
    readWord settings (ending.moved move) (word.relocate move.place)
        (rest.map (Token.relocate move.place)) =
      movedOutcome move (readWord settings ending word rest) := by
  simp only [readWord, Token.relocate_value]
  split
  · exact readOperand_moved ..
  · exact readOperand_moved ..
  · rw [movedOutcome_map, readSoftware_moved]
  · cases settings.admits word.value with
    | true => simp only [if_true, readNegation_moved, movedOutcome_map, readTest_moved]
    | false => rfl

theorem readClause_moved (settings : Settings) (ending : Ending) (token : Token)
    (rest : List Token) :
    readClause settings (ending.moved move) (token.relocate move.place)
        (rest.map (Token.relocate move.place)) =
      movedOutcome move (readClause settings ending token rest) := by
  simp only [readClause, Token.relocate_kind, Token.relocate_value]
  cases token.kind with
  | ident => exact readWord_moved ..
  | _ => rfl

private theorem moved_push (reading : Reading (Option Clause)) (run : Run) :
    (run.push reading).moved move =
      (run.moved move).push (reading.relocate move.place) := by
  obtain ⟨value, lookedAhead, rest⟩ := reading
  cases value with
  | none => rfl
  | some clause =>
      cases lookedAhead <;>
        simp [Run.push, Run.moved, Reading.relocate, Reading.unlexed]

private theorem readClauses_moved_nil (settings : Settings) (ending : Ending) :
    readClauses settings (ending.moved move) [] =
      (readClauses settings ending []).moved move := by
  obtain ⟨fault, length⟩ := ending
  rw [readClauses, readClauses]
  cases fault with
  | none => rfl
  | some fault =>
      simp [Ending.moved, Ending.settle, Run.moved, Run.stop, Failure.moved, Cause.moved,
        move.column_fault]

/-- A run over a moved query is the same run, moved. -/
theorem readClauses_moved (settings : Settings) (ending : Ending) (tokens : List Token) :
    readClauses settings (ending.moved move) (tokens.map (Token.relocate move.place)) =
      (readClauses settings ending tokens).moved move := by
  fun_induction readClauses settings ending tokens with
  | case1 _ settled =>
      have nothing := readClauses_moved_nil move settings ending
      rw [readClauses.eq_1 settings ending, settled] at nothing
      exact nothing
  | case2 failure failed =>
      have nothing := readClauses_moved_nil move settings ending
      rw [readClauses.eq_1 settings ending, failed] at nothing
      exact nothing
  | case3 token rest isPipe induction =>
      rw [List.map_cons, readClauses_pipe _ _ _ (by exact isPipe)]
      exact induction
  | case4 token rest notPipe reading read induction =>
      have moved := readClause_moved move settings ending token rest
      rw [read, movedOutcome_ok] at moved
      rw [List.map_cons, readClauses_of_ok (by exact notPipe) moved, moved_push]
      exact congrArg (Run.push _) induction
  | case5 token rest notPipe failure failed =>
      have moved := readClause_moved move settings ending token rest
      rw [failed, movedOutcome_error] at moved
      rw [List.map_cons, readClauses_of_error (by exact notPipe) moved]
      rfl

theorem outcome_moved (run : Run) :
    (run.moved move).outcome = run.outcome.mapError (Failure.moved move) := by
  obtain ⟨completed, failure⟩ := run
  cases failure with
  | none =>
      apply congrArg Except.ok
      simp [Run.moved, Function.comp_def]
  | some failure => rfl

/-! ## Places alone -/

/-- The same failure at another place. -/
def Failure.relocate (place : Nat → Nat) (failure : Failure) : Failure :=
  { cause := failure.cause.relocate place
    column := place failure.column
    unlexed := failure.unlexed.map (Token.relocate place) }

/-- The same ending behind relocated tokens. -/
def Ending.relocate (place : Nat → Nat) (ending : Ending) : Ending :=
  { fault := ending.fault.map (LexicalFault.relocate place), length := place ending.length }

/-- What a run over relocated tokens does. -/
def Run.relocate (place : Nat → Nat) (run : Run) : Run :=
  { completed := run.completed.map fun completed =>
      { completed with unlexed := completed.unlexed.map (Token.relocate place) }
    failure := run.failure.map (Failure.relocate place) }

theorem Failure.moved_ofPlace (place : Nat → Nat) :
    Failure.moved (.ofPlace place) = Failure.relocate place := by
  funext failure
  obtain ⟨cause, column, unlexed⟩ := failure
  cases cause <;> rfl

theorem Run.moved_ofPlace (place : Nat → Nat) (run : Run) :
    run.moved (.ofPlace place) = run.relocate place := by
  rw [Run.moved, Failure.moved_ofPlace]
  rfl

/-- A run over relocated tokens is the same run, relocated. -/
theorem readClauses_relocate (place : Nat → Nat) (settings : Settings) (ending : Ending)
    (tokens : List Token) :
    readClauses settings (ending.relocate place) (tokens.map (Token.relocate place)) =
      (readClauses settings ending tokens).relocate place := by
  rw [← Run.moved_ofPlace]
  exact readClauses_moved (.ofPlace place) settings ending tokens

theorem outcome_relocate (place : Nat → Nat) (run : Run) :
    (run.relocate place).outcome = run.outcome.mapError (Failure.relocate place) := by
  rw [← Run.moved_ofPlace, ← Failure.moved_ofPlace]
  exact outcome_moved (.ofPlace place) run

/-- Which clauses are read depends on the kinds and the values of the tokens alone. -/
theorem outcome_congr {settings : Settings} {ending ending' : Ending} {tokens tokens' : List Token}
    {clauses : List Clause} (whole : ending.fault = none) (whole' : ending'.fault = none)
    (same : tokens.map (Token.relocate fun _ => 0) = tokens'.map (Token.relocate fun _ => 0))
    (outcome : (readClauses settings ending tokens).outcome = .ok clauses) :
    (readClauses settings ending' tokens').outcome = .ok clauses := by
  have sameEnding : ending.relocate (fun _ => 0) = ending'.relocate (fun _ => 0) := by
    simp [Ending.relocate, whole, whole']
  have relocated := outcome_relocate (fun _ => 0) (readClauses settings ending tokens)
  have relocated' := outcome_relocate (fun _ => 0) (readClauses settings ending' tokens')
  rw [← readClauses_relocate, sameEnding, same, readClauses_relocate, relocated', outcome]
    at relocated
  cases outcome' : (readClauses settings ending' tokens').outcome with
  | error failure => rw [outcome'] at relocated; cases relocated
  | ok clauses' =>
      rw [outcome'] at relocated
      exact relocated

end Query
end PipeQuery

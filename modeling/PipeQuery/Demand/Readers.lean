import PipeQuery.Demand.Supply
import PipeQuery.Query.Run

/-!
# Reading a query on demand

The parsers that read a query from a supply.  Each loop is given by its round, and a round takes a
token in whatever state the supply is: runs of pipes and commas, words that are passed over and
clauses without an operand are taken as well.  So does the reader of a clause when a token is left
(`OnDemand.advances_readClause`).
-/

namespace PipeQuery
namespace OnDemand

open Query

/-! ## Marks -/

/-- A round of passing over tokens. -/
def skipRound : OnDemand .tokens (Option Unit) := do
  let _ ← next
  return some ()

theorem advances_skipRound : skipRound.Advances :=
  advances_next.andThen _

/-- Pass over tokens of a kind. -/
def skipLoop (kind : TokenKind) : Loop .tokens Unit where
  accepts := (· == kind)
  round _ := skipRound
  advances _ := advances_skipRound

/-- Pass over the tokens of a kind that come next. -/
def skip (kind : TokenKind) : OnDemand .tokens Unit :=
  (skipLoop kind).run ()

/-- Take a closing parenthesis if it comes next, which may be required. -/
def readClosing (required : Bool) : OnDemand .tokens Unit := do
  if ← upcoming (· == .closeParen) then
    let _ ← next
  else if required then halt (.near none .expectedClosingParen)

/-- Take an opening parenthesis if it comes next. -/
def readOpening : OnDemand .tokens Bool := do
  if ← upcoming (· == .openParen) then
    let _ ← next
    return true
  else return false

/-! ## Tests of a field -/

/-- Take a token into a list of values, given together with whether it has been opened. -/
def addValue (list : List String × Bool) (token : Token) : List String × Bool :=
  if token.kind = .openParen then (list.1, true)
  else if token.isText then (list.1 ++ [token.value], list.2)
  else list

/-- A round of a list of values: commas, and the token behind them. -/
def valueRound (list : List String × Bool) : OnDemand .tokens (Option (List String × Bool)) := do
  skip .comma
  let token? ← next
  return some (token?.elim list (addValue list))

theorem advances_valueRound (list : List String × Bool) : (valueRound list).Advances :=
  advances_behind _ fun _ => advances_next.andThen _

/-- A list of values goes on to a pipe or a closing parenthesis. -/
def valueLoop : Loop .tokens (List String × Bool) where
  accepts := (!·.endsList)
  round := valueRound
  advances := advances_valueRound

/-- Read the list of values that a field is compared with. -/
def readOneOf (field : String) (negated : Bool) : OnDemand .tokens Clause := do
  let list ← valueLoop.run ([], false)
  readClosing list.2
  return .oneOf field list.1 negated

/-- Read a bound. -/
def readNumber (field : String) : OnDemand .tokens Binary64 := do
  match ← next with
  | none => halt (.near none (.expectedNumber field))
  | some token =>
      if token.kind = .ident then
        match Binary64.ofWord? token.value with
        | some value => return value
        | none => halt (.near (some token) (.notANumber field token.value))
      else halt (.near (some token) (.expectedNumber field))

/-- A round of a chain of bounds: a relation and its bound, or a token that is passed over. -/
def chainRound (field : String) (bounds : Bounds) : OnDemand .tokens (Option Bounds) := do
  match ← next with
  | none => return none
  | some token =>
      match relation? token with
      | none => return some bounds
      | some relation =>
          let value ← readNumber field
          return some (bounds.set relation value)

theorem advances_chainRound (field : String) (bounds : Bounds) :
    (chainRound field bounds).Advances :=
  advances_next.andThen _

/-- A chain of bounds goes on to a pipe. -/
def chainLoop (field : String) : Loop .tokens Bounds where
  accepts := (· != .pipe)
  round := chainRound field
  advances := advances_chainRound field

/-- Read a chain of bounds, the relation of the first one being known. -/
def readRange (field : String) (relation : Relation) : OnDemand .tokens Clause := do
  let value ← readNumber field
  let bounds ← (chainLoop field).run (Bounds.empty.set relation value)
  return .range field bounds

/-- Read the text that a field is compared with. -/
def readText (field : String) (comparison : Keyword.Comparison) : OnDemand .tokens Clause := do
  match ← next with
  | none => halt (.near none (.unexpectedValue field))
  | some token =>
      if token.isText then
        match comparison with
        | .matching => return .matching field token.value
        | .equal => return .exact field token.value
      else halt (.near (some token) (.unexpectedValue field))

/-- Take the negating keyword if it comes next. -/
def readNegation : OnDemand .tokens Bool := do
  let token? ← peek
  if token?.any fun token => token.kind == .ident && Keyword.isNot token.value then
    let _ ← next
    return true
  else return false

/-- Read the keyword behind a field and what it asks for. -/
def readTest (field : String) (negated : Bool) : OnDemand .tokens Clause := do
  match ← next with
  | none => halt (.near none (.invalidOperator none))
  | some keyword =>
      if keyword.kind = .ident ∨ keyword.kind = .operator then
        match test? keyword.value with
        | some .oneOf => readOneOf field negated
        | some (.text comparison) => readText field comparison
        | some (.bounds relation) => readRange field relation
        | none => halt (.near (some keyword) (.invalidOperator (some keyword.value)))
      else halt (.near (some keyword) (.invalidOperator (some keyword.value)))

/-! ## Requests for software -/

/-- A round of the demands on a version: a relation and its version. -/
def constraintRound (versions : List Constraint) :
    OnDemand .tokens (Option (List Constraint)) := do
  match ← next with
  | none => return none
  | some relation =>
      match ← next with
      | none => halt (.near none .expectedVersion)
      | some version =>
          if version.isText then
            match Keyword.relation? relation.value with
            | some kind =>
                return some (versions ++ [{ relation := kind, version := version.value }])
            | none => halt (.near (some relation) (.invalidVersionOperator relation.value))
          else halt (.near (some version) .expectedVersion)

theorem advances_constraintRound (versions : List Constraint) :
    (constraintRound versions).Advances :=
  advances_next.andThen _

/-- The demands on a version go on to a separator. -/
def constraintLoop : Loop .tokens (List Constraint) where
  accepts := (!·.isSeparator)
  round := constraintRound
  advances := advances_constraintRound

/-- Read the demands on a version, if there are any. -/
def readConstraints : OnDemand .tokens (List Constraint) := do
  if ← upcoming (!·.isSeparator) then constraintLoop.run []
  else return []

/-- Read an entry of a list of software. -/
def readEntry : OnDemand .tokens Software := do
  match ← next with
  | none => halt (.near none .expectedSoftwareName)
  | some name =>
      if name.isText then
        let versions ← readConstraints
        return { name := name.value, versions }
      else halt (.near (some name) .expectedSoftwareName)

theorem advances_readEntry : readEntry.Advances :=
  advances_next.andThen _

/-- A round of a list of software: commas, and the entry behind them. -/
def entryRound (entries : List Software) : OnDemand .tokens (Option (List Software)) := do
  skip .comma
  let entry ← readEntry
  return some (entries ++ [entry])

theorem advances_entryRound (entries : List Software) : (entryRound entries).Advances :=
  advances_behind _ fun _ => advances_readEntry.andThen _

/-- A list of software goes on to a pipe or a closing parenthesis. -/
def entryLoop : Loop .tokens (List Software) where
  accepts := (!·.endsList)
  round := entryRound
  advances := advances_entryRound

/-- Read the name of a list, or a list, and what closes it. -/
def readRequested (fuzzy opened : Bool) : OnDemand .tokens SoftwareRequest := do
  match ← peek with
  | none => halt (.near none .expectedSoftwareQuery)
  | some token =>
      if token.isText then
        if isListReference token then
          let _ ← next
          readClosing opened
          return { entries := [], listReference := some token.value, fuzzy }
        else
          let entries ← entryLoop.run []
          readClosing opened
          return { entries, listReference := none, fuzzy }
      else halt (.near none .expectedSoftwareQuery)

/-- Read a request for software behind the software word. -/
def readSoftware : OnDemand .tokens Clause := do
  match ← next with
  | none => halt (.near none (.unexpectedOperator none))
  | some keyword =>
      if keyword.isText || keyword.kind = .operator then
        match Keyword.comparison? keyword.value with
        | none => halt (.near (some keyword) (.unexpectedOperator (some keyword.value)))
        | some comparison =>
            let opened ← readOpening
            let request ← readRequested (comparison == .matching) opened
            return .software request
      else halt (.near (some keyword) (.unexpectedOperator none))

/-! ## Clauses -/

/-- Read the operand of a filter or of a grouping; without one there is no clause. -/
def readOperand (clause : String → Clause) : OnDemand .tokens (Option Clause) := do
  let token? ← next
  return token?.map (clause ·.value)

/-- Read the clause that a word starts, from behind the word on. -/
def readBehindWord (settings : Settings) (word : Token) : OnDemand .tokens (Option Clause) :=
  match word.value with
  | "filter" => readOperand .filter
  | "group" => readOperand .group
  | "software" => do
      let clause ← readSoftware
      return some clause
  | field => do
      if settings.admits field then
        let negated ← readNegation
        let clause ← readTest field negated
        return some clause
      else halt (.near (some word) (.invalidField field))

/-- Read the clause that a word starts. -/
def readWord (settings : Settings) : OnDemand .tokens (Option Clause) := do
  match ← next with
  | none => return none
  | some word => readBehindWord settings word

/-- Read the clause that starts with the token looked at. -/
def readFirst (settings : Settings) (token : Token) : OnDemand .tokens (Option Clause) :=
  match token.kind with
  | .ident => readWord settings
  | .string => do
      let _ ← next
      return some (.matching settings.fullTextField token.value)
  | kind => halt (.near (some token) (.unexpectedToken kind.name token.value))

theorem advances_readFirst (settings : Settings) (token : Token) :
    (readFirst settings token).Advances := by
  unfold readFirst
  split
  · exact advances_next.andThen _
  · exact advances_next.andThen _
  · exact advances_halt _

/-- Read a clause, passing over the pipes in front of it. -/
def readClause (settings : Settings) : OnDemand .tokens (Option Clause) := do
  skip .pipe
  match ← peek with
  | none => return none
  | some token => readFirst settings token

theorem advances_readClause (settings : Settings) : (readClause settings).Advances :=
  advances_behind _ fun _ => advances_peek fun token => advances_readFirst settings token

/-- Report a clause. -/
def reportClause (clause : Clause) : OnDemand .clauses Unit where
  run supply := (.ok (), supply.report (.completed clause.tag clause.field?))
  orderly supply := supply.passes_report rfl rfl

/-- A round of reading clauses. -/
def clauseRound (settings : Settings) (clauses : List Clause) :
    OnDemand .clauses (Option (List Clause)) := do
  match ← widen (readClause settings) with
  | some clause =>
      reportClause clause
      return some (clauses ++ [clause])
  | none => return some clauses

/-- A round of reading clauses reads a clause, reports it if there is one, and puts it behind the
others. -/
theorem run_clauseRound (settings : Settings) (clauses : List Clause) (supply : Supply) :
    (clauseRound settings clauses).run supply =
      match (readClause settings).run supply with
      | (.ok (some clause), after) =>
          (.ok (some (clauses ++ [clause])),
            after.report (.completed clause.tag clause.field?))
      | (.ok none, after) => (.ok (some clauses), after)
      | (.error reason, after) => (.error reason, after) := by
  rw [clauseRound, run_bind, run_widen]
  rcases (readClause settings).run supply with ⟨reason | _ | clause, after⟩ <;> rfl

/-- Clauses are read up to the last token. -/
def clauseLoop (settings : Settings) : Loop .clauses (List Clause) where
  accepts := fun _ => true
  round := clauseRound settings
  advances _ := (advances_readClause settings).widen.andThen _

/-- Reading clauses looks whether a token is left, and if so reads a clause and goes on behind
it. -/
theorem run_clauseLoop (settings : Settings) (clauses : List Clause) (supply : Supply) :
    ((clauseLoop settings).run clauses).run supply =
      match supply.peek with
      | (.error fault, after) => (.error (.lexical fault), after)
      | (.ok none, after) => (.ok clauses, after)
      | (.ok (some _), middle) =>
          match (readClause settings).run middle with
          | (.error reason, after) => (.error reason, after)
          | (.ok none, after) => ((clauseLoop settings).run clauses).run after
          | (.ok (some clause), after) =>
              ((clauseLoop settings).run (clauses ++ [clause])).run
                (after.report (.completed clause.tag clause.field?)) := by
  have unrolled : ((clauseLoop settings).run clauses).run supply = _ :=
    congrArg (run · supply) ((clauseLoop settings).run_eq clauses)
  rw [unrolled, run_bind, run_upcoming]
  rcases supply.peek with ⟨fault | _ | token, middle⟩
  · rfl
  · rfl
  · change (clauseRound settings clauses >>= _).run middle = _
    rw [run_bind, run_clauseRound]
    simp only
    rcases (readClause settings).run middle with ⟨reason | _ | clause, after⟩ <;> rfl

/-- Report how reading a query has ended. -/
def conclude (source : List Char) :
    Except Halt (List Clause) × Supply → Except Diagnostic (List Clause) × Supply
  | (.ok clauses, supply) => (.ok clauses, supply.report (.finished clauses.length))
  | (.error reason, supply) =>
      let column := reason.column?.getD supply.column
      (.error (.locate reason.cause column source),
        supply.report (.rejected reason.cause.code column))

/-- Reporting the end takes nothing. -/
theorem draws_conclude {before : Supply} {taken : List Token}
    {ends : Except Halt (List Clause) × Supply} (draws : before.Draws taken ends.2)
    (source : List Char) : before.Draws taken (conclude source ends).2 := by
  obtain ⟨given, ahead, pending⟩ := draws
  obtain ⟨reason | clauses, after⟩ := ends <;> exact ⟨given, ahead, pending⟩

/-- Read the clauses of a query: the outcome, and what has been taken and reported. -/
def parse (settings : Settings) (query : String) :
    Except Diagnostic (List Clause) × Supply :=
  conclude query.toList
    (((clauseLoop settings).run []).run (.start settings.tolerant query))

end OnDemand
end PipeQuery

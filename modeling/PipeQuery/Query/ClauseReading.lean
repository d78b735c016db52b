import PipeQuery.Query.RangeChain
import PipeQuery.Query.SoftwareList
import PipeQuery.Query.ValueList
import PipeQuery.Settings

/-!
# One clause

The first token of a clause says what the clause is.  A quoted text is looked for in the full-text
field.  A reserved word starts a clause of its own; any other word has to be a field, and the
keyword behind it says how the field is compared.  The main statement here says that a clause takes
its first token and leaves the end of the others (`suffix_of_readClause`).
-/

namespace PipeQuery
namespace Query

/-- What the keyword behind a field asks for. -/
inductive Test where
  /-- The value is in a list. -/
  | oneOf
  /-- The value is compared with a text. -/
  | text (comparison : Keyword.Comparison)
  /-- The value lies within bounds, the first of which has the relation. -/
  | bounds (relation : Relation)
  deriving DecidableEq, Repr

/-- The test that a keyword asks for.  Lists come before texts and texts before bounds, so a
keyword with several meanings never starts a chain of bounds. -/
def test? (keyword : String) : Option Test :=
  if Keyword.isIn keyword then some .oneOf
  else
    match Keyword.comparison? keyword with
    | some comparison => some (.text comparison)
    | none => (Keyword.relation? keyword).map .bounds

/-- Take the negating keyword if it comes next. -/
def readNegation : List Token → Bool × List Token
  | [] => (false, [])
  | token :: rest =>
      if token.kind = .ident ∧ Keyword.isNot token.value then (true, rest)
      else (false, token :: rest)

/-- Read the text that a field is compared with. -/
def readText (ending : Ending) (field : String) (comparison : Keyword.Comparison) :
    List Token → Except Failure (Reading Clause)
  | [] => .error (ending.refuse (.unexpectedValue field))
  | token :: rest =>
      if token.isText then
        let value :=
          match comparison with
          | .matching => Clause.matching field token.value
          | .equal => Clause.exact field token.value
        .ok { value, lookedAhead := false, rest }
      else .error (.blame token (.unexpectedValue field) rest)

/-- Read the keyword behind a field and what it asks for. -/
def readTest (ending : Ending) (field : String) (negated : Bool) :
    List Token → Except Failure (Reading Clause)
  | [] => .error (ending.refuse (.invalidOperator none))
  | keyword :: rest =>
      if keyword.kind = .ident ∨ keyword.kind = .operator then
        match test? keyword.value with
        | some .oneOf => readOneOf ending field negated rest
        | some (.text comparison) => readText ending field comparison rest
        | some (.bounds relation) => readRange ending field relation rest
        | none => .error (.blame keyword (.invalidOperator (some keyword.value)) rest)
      else .error (.blame keyword (.invalidOperator (some keyword.value)) rest)

/-- What is read behind a keyword that asks for a test. -/
def Test.read (ending : Ending) (field : String) (negated : Bool) (test : Test)
    (tokens : List Token) : Except Failure (Reading Clause) :=
  match test with
  | .oneOf => readOneOf ending field negated tokens
  | .text comparison => readText ending field comparison tokens
  | .bounds relation => readRange ending field relation tokens

theorem readTest_cons {keyword : Token} {test : Test}
    (isKeyword : keyword.kind = .ident ∨ keyword.kind = .operator)
    (asked : test? keyword.value = some test) (ending : Ending) (field : String)
    (negated : Bool) (rest : List Token) :
    readTest ending field negated (keyword :: rest) = test.read ending field negated rest := by
  rw [readTest, if_pos isKeyword, asked]
  cases test <;> rfl

/-- Read the operand of a filter or of a grouping: the next token, whatever it is.  At the end of
the query there is no clause. -/
def readOperand (ending : Ending) (clause : String → Clause) :
    List Token → Except Failure (Reading (Option Clause))
  | [] => ending.settle.map fun _ => { value := none, lookedAhead := true, rest := [] }
  | token :: rest => .ok { value := some (clause token.value), lookedAhead := false, rest }

/-- Read the clause that a word starts. -/
def readWord (settings : Settings) (ending : Ending) (word : Token) (rest : List Token) :
    Except Failure (Reading (Option Clause)) :=
  match word.value with
  | "filter" => readOperand ending .filter rest
  | "group" => readOperand ending .group rest
  | "software" => (readSoftware ending rest).map (Reading.map some)
  | field =>
      if settings.admits field then
        let (negated, rest) := readNegation rest
        (readTest ending field negated rest).map (Reading.map some)
      else .error (.blame word (.invalidField field) rest)

theorem readWord_filter {word : Token} (isFilter : word.value = "filter") (settings : Settings)
    (ending : Ending) (rest : List Token) :
    readWord settings ending word rest = readOperand ending .filter rest := by
  simp [readWord, isFilter]

theorem readWord_group {word : Token} (isGroup : word.value = "group") (settings : Settings)
    (ending : Ending) (rest : List Token) :
    readWord settings ending word rest = readOperand ending .group rest := by
  simp [readWord, isGroup]

theorem readWord_software {word : Token} (isSoftware : word.value = "software")
    (settings : Settings) (ending : Ending) (rest : List Token) :
    readWord settings ending word rest =
      (readSoftware ending rest).map (Reading.map some) := by
  simp [readWord, isSoftware]

theorem readWord_field {word : Token} (free : word.value ∉ Keyword.reserved)
    (settings : Settings) (ending : Ending) (rest : List Token) :
    readWord settings ending word rest =
      if settings.admits word.value then
        (readTest ending word.value (readNegation rest).1 (readNegation rest).2).map
          (Reading.map some)
      else .error (.blame word (.invalidField word.value) rest) := by
  unfold readWord
  split
  · next isFilter => simp [Keyword.reserved, isFilter] at free
  · next isGroup => simp [Keyword.reserved, isGroup] at free
  · next isSoftware => simp [Keyword.reserved, isSoftware] at free
  · rfl

/-- The clause of a word is a filter or a grouping, a request for software, or about the word as a
field. -/
theorem exists_of_readWord {settings : Settings} {ending : Ending} {word : Token}
    {rest : List Token} {reading : Reading (Option Clause)}
    (read : readWord settings ending word rest = .ok reading) :
    (∃ clause, (clause = .filter ∨ clause = .group) ∧
        readOperand ending clause rest = .ok reading) ∨
      (∃ inner, readSoftware ending rest = .ok inner ∧ reading = inner.map some) ∨
      word.value ∉ Keyword.reserved ∧ settings.admits word.value = true ∧
        ∃ inner, readTest ending word.value (readNegation rest).1 (readNegation rest).2 =
          .ok inner ∧ reading = inner.map some := by
  by_cases isReserved : word.value ∈ Keyword.reserved
  · simp only [Keyword.reserved, List.mem_cons, List.not_mem_nil, or_false] at isReserved
    rcases isReserved with isFilter | isGroup | isSoftware
    · rw [readWord_filter isFilter] at read
      exact .inl ⟨.filter, .inl rfl, read⟩
    · rw [readWord_group isGroup] at read
      exact .inl ⟨.group, .inr rfl, read⟩
    · rw [readWord_software isSoftware] at read
      exact .inr (.inl (exists_of_map_ok read))
  · rw [readWord_field isReserved] at read
    split at read
    · next admitted => exact .inr (.inr ⟨isReserved, admitted, exists_of_map_ok read⟩)
    · cases read

/-- Read the clause that a token starts. -/
def readClause (settings : Settings) (ending : Ending) (token : Token) (rest : List Token) :
    Except Failure (Reading (Option Clause)) :=
  match token.kind with
  | .ident => readWord settings ending token rest
  | .string =>
      .ok { value := some (.matching settings.fullTextField token.value)
            lookedAhead := false
            rest }
  | kind => .error (.blame token (.unexpectedToken kind.name token.value) rest)

theorem suffix_of_readOneOf {ending : Ending} {field : String} {negated : Bool}
    {tokens : List Token} {reading : Reading Clause}
    (read : readOneOf ending field negated tokens = .ok reading) : reading.rest <:+ tokens := by
  obtain ⟨closing, closed, rfl⟩ := exists_of_map_ok read
  exact (suffix_of_readClosing closed).trans (ValueList.suffix_read false tokens)

theorem suffix_of_readRange {ending : Ending} {field : String} {relation : Relation}
    {tokens : List Token} {reading : Reading Clause}
    (read : readRange ending field relation tokens = .ok reading) : reading.rest <:+ tokens := by
  obtain ⟨operand, rest, value, chain, rfl, -, chained, rfl⟩ := exists_of_readRange read
  exact (suffix_of_readChain chained).trans (List.suffix_cons _ _)

theorem suffix_readNegation (tokens : List Token) : (readNegation tokens).2 <:+ tokens := by
  unfold readNegation
  split
  · exact List.suffix_refl _
  · split
    · exact List.suffix_cons _ _
    · exact List.suffix_refl _

theorem suffix_of_readText {ending : Ending} {field : String}
    {comparison : Keyword.Comparison} {tokens : List Token} {reading : Reading Clause}
    (read : readText ending field comparison tokens = .ok reading) :
    reading.rest <:+ tokens := by
  unfold readText at read
  split at read
  · cases read
  · split at read <;> cases read
    exact List.suffix_cons _ _

/-- A test of a field that is read has a keyword and what it asks for. -/
theorem exists_of_readTest {ending : Ending} {field : String} {negated : Bool}
    {tokens : List Token} {reading : Reading Clause}
    (read : readTest ending field negated tokens = .ok reading) :
    ∃ keyword rest test, tokens = keyword :: rest ∧
      (keyword.kind = .ident ∨ keyword.kind = .operator) ∧ test? keyword.value = some test ∧
      test.read ending field negated rest = .ok reading := by
  unfold readTest at read
  split at read
  · cases read
  · next keyword rest =>
      split at read
      · next isKeyword =>
          split at read
          · next asked => exact ⟨keyword, rest, _, rfl, isKeyword, asked, read⟩
          · next asked => exact ⟨keyword, rest, _, rfl, isKeyword, asked, read⟩
          · next asked => exact ⟨keyword, rest, _, rfl, isKeyword, asked, read⟩
          · cases read
      · cases read

theorem suffix_of_readTest {ending : Ending} {field : String} {negated : Bool}
    {tokens : List Token} {reading : Reading Clause}
    (read : readTest ending field negated tokens = .ok reading) : reading.rest <:+ tokens := by
  obtain ⟨keyword, rest, test, rfl, -, -, inner⟩ := exists_of_readTest read
  refine List.IsSuffix.trans ?_ (List.suffix_cons _ _)
  cases test with
  | oneOf => exact suffix_of_readOneOf inner
  | text comparison => exact suffix_of_readText inner
  | bounds relation => exact suffix_of_readRange inner

theorem suffix_of_readOperand {ending : Ending} {clause : String → Clause}
    {tokens : List Token} {reading : Reading (Option Clause)}
    (read : readOperand ending clause tokens = .ok reading) : reading.rest <:+ tokens := by
  unfold readOperand at read
  split at read
  · unfold Ending.settle at read
    split at read <;> cases read
    exact List.suffix_refl _
  · cases read
    exact List.suffix_cons _ _

theorem suffix_of_readWord {settings : Settings} {ending : Ending} {word : Token}
    {rest : List Token} {reading : Reading (Option Clause)}
    (read : readWord settings ending word rest = .ok reading) : reading.rest <:+ rest := by
  rcases exists_of_readWord read with ⟨clause, -, operand⟩ | ⟨inner, asked, rfl⟩ |
    ⟨-, -, inner, tested, rfl⟩
  · exact suffix_of_readOperand operand
  · exact suffix_of_readSoftware asked
  · exact (suffix_of_readTest tested).trans (suffix_readNegation rest)

/-- A clause takes its first token and leaves the end of the others. -/
theorem suffix_of_readClause {settings : Settings} {ending : Ending} {token : Token}
    {rest : List Token} {reading : Reading (Option Clause)}
    (read : readClause settings ending token rest = .ok reading) : reading.rest <:+ rest := by
  unfold readClause at read
  split at read
  · exact suffix_of_readWord read
  · cases read
    exact List.suffix_refl _
  · cases read

end Query
end PipeQuery

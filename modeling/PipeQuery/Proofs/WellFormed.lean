import PipeQuery.Query.Run

/-!
# Clauses that are read are well-formed

Whatever the tokens are, a clause that a run completes is about a field that the settings admit and
that is no reserved word, has a bound where it has bounds, and asks for software either by entries
or by the name of a list.  The clauses before a refusal are well-formed as well
(`Query.wellFormed_of_mem_readClauses`).
-/

namespace PipeQuery

/-- A word can be the field of a comparison. -/
structure Settings.NamesField (settings : Settings) (word : String) : Prop where
  /-- The settings admit it. -/
  admitted : word ∈ settings.fields
  /-- It starts no clause of its own. -/
  free : word ∉ Keyword.reserved

/-- Bounds that demand something, by finite numbers only. -/
structure Bounds.WellFormed (bounds : Bounds) : Prop where
  /-- There is a bound. -/
  given : ∃ relation, (bounds.get? relation).isSome = true
  /-- Every bound is a finite number. -/
  finite : ∀ relation value, bounds.get? relation = some value →
    IsRepresentable value.units.natAbs

/-- A request for software has entries or the name of a list, and not both. -/
def SoftwareRequest.WellFormed (request : SoftwareRequest) : Prop :=
  request.listReference = none ∧ request.entries ≠ [] ∨
    request.entries = [] ∧ ∃ reference, request.listReference = some reference ∧
      reference.toList.head? = some '@'

/-- What holds of every clause of a query. -/
def Clause.WellFormed (settings : Settings) : Clause → Prop
  | software request => request.WellFormed
  | oneOf field _ _ => settings.NamesField field
  | range field bounds => settings.NamesField field ∧ bounds.WellFormed
  | matching field _ => settings.NamesField field ∨ field = settings.fullTextField
  | exact field _ => settings.NamesField field
  | filter _ => True
  | group _ => True

theorem Bounds.wellFormed_set (bounds : Bounds) (relation : Relation) (value : Binary64) :
    (bounds.set relation value).WellFormed where
  given := ⟨relation, by simp⟩
  finite _ other _ := other.representable

namespace Query

/-! ## Parts of clauses -/

/-- A chain of bounds keeps the demand of its first bound. -/
theorem wellFormed_of_readChain {ending : Ending} {field : String} {bounds : Bounds}
    {tokens : List Token} {reading : Reading Bounds} (given : bounds.WellFormed)
    (read : readChain ending field bounds tokens = .ok reading) : reading.value.WellFormed := by
  fun_induction readChain ending field bounds tokens with
  | case1 bounds =>
      cases settled : ending.settle with
      | error failure => rw [settled] at read; cases read
      | ok _ =>
          rw [settled] at read
          cases read
          exact given
  | case2 bounds token rest isPipe =>
      cases read
      exact given
  | case3 bounds token rest notPipe noRelation induction => exact induction given read
  | case4 => cases read
  | case5 => cases read
  | case6 bounds token notPipe relation isRelation operand rest value bound induction =>
      exact induction (Bounds.wellFormed_set bounds relation value) read

/-- Entries are only read where a name comes, so there is an entry. -/
theorem entries_ne_nil_of_readEntries {ending : Ending} {current? : Option Software}
    {tokens : List Token} {reading : Reading (List Software)}
    (read : readEntries ending current? tokens = .ok reading) : reading.value ≠ [] := by
  fun_induction readEntries ending current? tokens generalizing reading with
  | case1 => cases read
  | case2 current =>
      cases settled : ending.settle with
      | error failure => rw [settled] at read; cases read
      | ok _ =>
          rw [settled] at read
          cases read
          exact List.cons_ne_nil _ _
  | case3 token rest isComma induction => exact induction read
  | case4 token rest notComma isText induction => exact induction read
  | case5 => cases read
  | case6 token rest current ends =>
      cases read
      exact List.cons_ne_nil _ _
  | case7 token rest current goesOn isComma induction =>
      obtain ⟨inner, -, rfl⟩ := exists_of_map_ok read
      exact List.cons_ne_nil _ _
  | case8 => cases read
  | case9 => cases read
  | case10 token current goesOn notComma version rest constraint made induction =>
      exact induction read

theorem wellFormed_of_readRequested {ending : Ending} {fuzzy opened : Bool}
    {tokens : List Token} {reading : Reading SoftwareRequest}
    (read : readRequested ending fuzzy opened tokens = .ok reading) :
    reading.value.WellFormed := by
  obtain ⟨token, rest, rfl, -, referred | listed⟩ := exists_of_readRequested read
  · obtain ⟨isReference, closing, -, rfl⟩ := referred
    have marked : token.value.toList.head? = some '@' := by
      simp only [isListReference, Bool.and_eq_true, beq_iff_eq] at isReference
      exact isReference.2
    exact .inr ⟨rfl, token.value, rfl, marked⟩
  · obtain ⟨-, entries, closing, listed, -, rfl⟩ := listed
    exact .inl ⟨rfl, entries_ne_nil_of_readEntries listed⟩

/-! ## Clauses -/

variable {settings : Settings} {ending : Ending} {field : String} {negated : Bool}

theorem wellFormed_of_testRead {test : Test} {tokens : List Token} {reading : Reading Clause}
    (names : settings.NamesField field)
    (read : test.read ending field negated tokens = .ok reading) :
    reading.value.WellFormed settings := by
  cases test with
  | oneOf =>
      obtain ⟨closing, -, rfl⟩ := exists_of_map_ok read
      exact names
  | text comparison =>
      cases tokens with
      | nil => cases read
      | cons token rest =>
          simp only [Test.read, readText] at read
          split at read
          · cases read
            cases comparison with
            | matching => exact .inl names
            | equal => exact names
          · cases read
  | bounds relation =>
      obtain ⟨operand, rest, value, chain, -, -, chained, rfl⟩ := exists_of_readRange read
      have first := Bounds.wellFormed_set .empty relation value
      exact ⟨names, wellFormed_of_readChain first chained⟩

theorem wellFormed_of_readOperand {clause : String → Clause} {tokens : List Token}
    {reading : Reading (Option Clause)} (always : ∀ value, (clause value).WellFormed settings)
    (read : readOperand ending clause tokens = .ok reading) :
    ∀ found ∈ reading.value, found.WellFormed settings := by
  cases tokens with
  | nil =>
      rw [readOperand] at read
      cases settled : ending.settle with
      | error failure => rw [settled] at read; cases read
      | ok _ =>
          rw [settled] at read
          cases read
          simp
  | cons token rest =>
      cases read
      simpa using always token.value

/-- Reserved words are looked for before fields, so a field is never one of them. -/
theorem wellFormed_of_readWord {word : Token} {rest : List Token}
    {reading : Reading (Option Clause)}
    (read : readWord settings ending word rest = .ok reading) :
    ∀ found ∈ reading.value, found.WellFormed settings := by
  rcases exists_of_readWord read with ⟨clause, isOperand, operand⟩ | ⟨inner, readInner, rfl⟩ |
    ⟨free, admitted, inner, readInner, rfl⟩
  · have always : ∀ name, (clause name).WellFormed settings := by
      rcases isOperand with rfl | rfl <;> exact fun _ => True.intro
    exact wellFormed_of_readOperand always operand
  · obtain ⟨keyword, rest, comparison, requested, -, -, -, asked, rfl⟩ :=
      exists_of_readSoftware readInner
    have requestedWell := wellFormed_of_readRequested asked
    simpa [Reading.map, Clause.WellFormed] using requestedWell
  · have names : settings.NamesField word.value :=
      ⟨by simpa [Settings.admits] using admitted, free⟩
    obtain ⟨keyword, others, test, -, -, -, tested⟩ := exists_of_readTest readInner
    simpa [Reading.map] using wellFormed_of_testRead names tested

theorem wellFormed_of_readClause {token : Token} {rest : List Token}
    {reading : Reading (Option Clause)}
    (read : readClause settings ending token rest = .ok reading) :
    ∀ found ∈ reading.value, found.WellFormed settings := by
  rw [readClause] at read
  split at read
  · exact wellFormed_of_readWord read
  · cases read
    simp [Clause.WellFormed]
  · cases read

/-- Every clause that a run completes is well-formed, also when the run fails later. -/
theorem wellFormed_of_mem_readClauses (settings : Settings) (ending : Ending)
    (tokens : List Token) :
    ∀ completed ∈ (readClauses settings ending tokens).completed,
      completed.clause.WellFormed settings := by
  fun_induction readClauses settings ending tokens with
  | case1 => simp [Run.stop]
  | case2 => simp [Run.stop]
  | case3 token rest isPipe induction => exact induction
  | case4 token rest notPipe reading read induction =>
      have found := wellFormed_of_readClause read
      cases value : reading.value with
      | none => simpa [Run.push, value] using induction
      | some clause =>
          have first : clause.WellFormed settings := found clause value
          simpa [Run.push, value] using ⟨first, induction⟩
  | case5 => simp [Run.stop]

/-- Every clause of a query that is read is well-formed. -/
theorem wellFormed_of_parse {settings : Settings} {query : String} {clauses : List Clause}
    (parsed : parse settings query = .ok clauses) :
    ∀ clause ∈ clauses, clause.WellFormed settings := by
  intro clause isClause
  have completed := wellFormed_of_mem_readClauses settings
    { fault := (tokens settings query).fault, length := query.toList.length }
    (tokens settings query).tokens
  have outcome := outcome_of_parse parsed
  simp only [run, Run.outcome] at outcome
  split at outcome
  · cases outcome
  · cases outcome
    obtain ⟨found, isFound, rfl⟩ := List.mem_map.mp isClause
    exact completed found isFound

/-- Stray commas, words behind a number and empty clauses do no harm. -/
theorem wellFormed_of_parse_stray :
    parse (.ofFields ["severity", "tags"])
        "tags not in ,,a | severity > 0 or so || software in x | software ~ (@own)" =
      .ok [.oneOf "tags" ["a"] true, .range "severity" (Bounds.empty.set .gt Binary64.zero),
        .software { entries := [.named "x"], listReference := none, fuzzy := false },
        .software { entries := [], listReference := some "@own", fuzzy := true }] ∧
    ∀ clause ∈ [Clause.oneOf "tags" ["a"] true,
        .range "severity" (Bounds.empty.set .gt Binary64.zero),
        .software { entries := [.named "x"], listReference := none, fuzzy := false },
        .software { entries := [], listReference := some "@own", fuzzy := true }],
      clause.WellFormed (.ofFields ["severity", "tags"]) := by
  rw [and_iff_left_of_imp wellFormed_of_parse]
  decide +kernel

end Query
end PipeQuery

import PipeQuery.Query.Run

/-!
# More fields

The fields are asked for at one place only: a word that starts a clause and is not reserved has to
be one of them.  Hence settings with more fields read a query as before, unless it was refused for
one of the fields that they add (`Query.parse_enlarged`).  A reserved word is never asked for, so
adding it changes nothing.
-/

namespace PipeQuery

/-- A word that could be the field of a comparison with the given fields, but not with those of the
settings. -/
structure Settings.Misses (settings : Settings) (fields : FieldSet) (word : String) : Prop where
  /-- It is one of the given fields. -/
  added : word ∈ fields
  /-- The settings do not admit it. -/
  missing : word ∉ settings.fields
  /-- It starts no clause of its own. -/
  free : word ∉ Keyword.reserved

namespace Query

variable {settings : Settings} {fields : FieldSet} {ending : Ending}

/-- A reserved word starts the same clause whatever the settings are. -/
theorem readWord_reserved {word : Token} (isReserved : word.value ∈ Keyword.reserved)
    (settings settings' : Settings) (ending : Ending) (rest : List Token) :
    readWord settings ending word rest = readWord settings' ending word rest := by
  simp only [Keyword.reserved, List.mem_cons, List.not_mem_nil, or_false] at isReserved
  rcases isReserved with isFilter | isGroup | isSoftware
  · rw [readWord_filter isFilter, readWord_filter isFilter]
  · rw [readWord_group isGroup, readWord_group isGroup]
  · rw [readWord_software isSoftware, readWord_software isSoftware]

/-- More fields leave the clause of a word as it is, or admit the word. -/
theorem readWord_enlarged (larger : ∀ field ∈ settings.fields, field ∈ fields) (word : Token)
    (rest : List Token) :
    readWord { settings with fields } ending word rest = readWord settings ending word rest ∨
      readWord settings ending word rest =
          .error (.blame word (.invalidField word.value) rest) ∧
        settings.Misses fields word.value := by
  by_cases isReserved : word.value ∈ Keyword.reserved
  · exact .inl (readWord_reserved isReserved _ _ ending rest)
  · rw [readWord_field isReserved, readWord_field isReserved]
    by_cases known : word.value ∈ settings.fields
    · simp [Settings.admits, known, larger _ known]
    · by_cases added : word.value ∈ fields
      · right
        simp [Settings.admits, known, Settings.Misses.mk added known isReserved]
      · simp [Settings.admits, known, added]

theorem readClause_enlarged (larger : ∀ field ∈ settings.fields, field ∈ fields)
    (ending : Ending) (token : Token) (rest : List Token) :
    readClause { settings with fields } ending token rest =
        readClause settings ending token rest ∨
      readClause settings ending token rest =
          .error (.blame token (.invalidField token.value) rest) ∧
        settings.Misses fields token.value := by
  cases kind : token.kind with
  | ident =>
      simp only [readClause, kind]
      exact readWord_enlarged larger token rest
  | string | pipe | openParen | closeParen | comma | operator =>
      simp only [readClause, kind, true_or]

/-- More fields leave a run as it is, unless it stopped at one of them. -/
theorem readClauses_enlarged (larger : ∀ field ∈ settings.fields, field ∈ fields)
    (tokens : List Token) :
    readClauses { settings with fields } ending tokens = readClauses settings ending tokens ∨
      ∃ word failure, (readClauses settings ending tokens).outcome = .error failure ∧
        failure.cause = .invalidField word ∧ settings.Misses fields word := by
  fun_induction readClauses settings ending tokens with
  | case1 _ settled | case2 _ settled =>
      left
      rw [readClauses, settled]
  | case3 token rest isPipe induction =>
      rw [readClauses_pipe _ _ _ isPipe]
      exact induction
  | case4 token rest notPipe reading read induction =>
      rcases readClause_enlarged larger ending token rest with same | ⟨refused, -⟩
      · rw [readClauses_of_ok notPipe (same.trans read)]
        rcases induction with same | ⟨word, failure, failed, cause, misses⟩
        · exact .inl (by rw [same])
        · refine .inr ⟨word, failure, ?_, cause, misses⟩
          rw [outcome_push, failed]
          rfl
      · rw [read] at refused
        cases refused
  | case5 token rest notPipe failure refused =>
      rcases readClause_enlarged larger ending token rest with same | ⟨blamed, misses⟩
      · exact .inl (readClauses_of_error notPipe (same.trans refused))
      · obtain rfl := Except.error.inj (refused.symm.trans blamed)
        exact .inr ⟨token.value, _, rfl, rfl, misses⟩

/-- More fields leave the answer to a query as it is, unless it was refused for one of them. -/
theorem parse_of_larger (larger : ∀ field ∈ settings.fields, field ∈ fields) (query : String) :
    parse { settings with fields } query = parse settings query ∨
      ∃ word diagnostic, parse settings query = .error diagnostic ∧
        diagnostic.cause = .invalidField word ∧ settings.Misses fields word := by
  have sameTokens : tokens { settings with fields } query = tokens settings query := rfl
  simp only [parse, run, sameTokens]
  rcases readClauses_enlarged larger (tokens settings query).tokens with
    same | ⟨word, failure, failed, cause, misses⟩
  · exact .inl (by rw [same])
  · refine .inr ⟨word, failure.diagnose query, ?_, cause, misses⟩
    rw [failed]
    rfl

/-- Settings with more fields give the same clauses or the same diagnostic, unless the query was
refused for a field that they add.  Reserved words may be added to the fields of any settings. -/
theorem parse_enlarged (settings : Settings) (query : String) :
    (∀ fields : FieldSet, (∀ field ∈ settings.fields, field ∈ fields) →
      parse { settings with fields } query = parse settings query ∨
        ∃ field diagnostic, parse settings query = .error diagnostic ∧
          diagnostic.cause = .invalidField field ∧ field ∈ fields ∧ field ∉ settings.fields) ∧
      ∀ names : List String, names ⊆ Keyword.reserved →
        parse (settings.withFields names) query = parse settings query := by
  constructor
  · intro fields larger
    rcases parse_of_larger larger query with same | ⟨word, diagnostic, refused, cause, misses⟩
    · exact .inl same
    · exact .inr ⟨word, diagnostic, refused, cause, misses.added, misses.missing⟩
  · intro names areReserved
    have larger : ∀ field ∈ settings.fields, field ∈ settings.fields.insertAll names := by
      intro field known
      exact FieldSet.mem_insertAll.mpr (.inr known)
    rcases parse_of_larger larger query with same | ⟨word, _, -, -, misses⟩
    · exact same
    · rcases FieldSet.mem_insertAll.mp misses.added with named | known
      · exact absurd (areReserved named) misses.free
      · exact absurd known misses.missing

/-- The second clause is about a field that is added, and the first one is read as before. -/
theorem parse_enlarged_tags :
    ((∀ field ∈ (Settings.ofFields ["id"]).fields, field ∈ FieldSet.ofList ["id", "tags"]) ∧
      (parse { Settings.ofFields ["id"] with fields := .ofList ["id", "tags"] }
          "id = x | tags = y" = parse (.ofFields ["id"]) "id = x | tags = y" ∨
        ∃ field diagnostic, parse (.ofFields ["id"]) "id = x | tags = y" = .error diagnostic ∧
          diagnostic.cause = .invalidField field ∧ field ∈ FieldSet.ofList ["id", "tags"] ∧
          field ∉ (Settings.ofFields ["id"]).fields)) ∧
      ["group"] ⊆ Keyword.reserved ∧
      parse ((Settings.ofFields ["id"]).withFields ["group"]) "id = x | group = y" =
        parse (.ofFields ["id"]) "id = x | group = y" := by
  have larger : ∀ field ∈ (Settings.ofFields ["id"]).fields,
      field ∈ FieldSet.ofList ["id", "tags"] := by
    simp [Settings.ofFields]
  have reserved : ["group"] ⊆ Keyword.reserved := by simp [Keyword.reserved]
  exact ⟨⟨larger, (parse_enlarged _ _).1 _ larger⟩, reserved, (parse_enlarged _ _).2 _ reserved⟩

end Query
end PipeQuery

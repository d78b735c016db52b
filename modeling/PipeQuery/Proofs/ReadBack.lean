import PipeQuery.Proofs.Reading.Acceptance
import PipeQuery.Proofs.Reading.Relocation

/-!
# What is written is read back

Every way to write clauses spells tokens from which the readers make exactly these clauses, so a
query that is written from clauses means them (`Query.parse_written`).
-/

namespace PipeQuery

open Text.Quoted (literal)

/-! ## Sequences as texts -/

section Sequences

variable {α : Type} {separator : String} {between : List Token} {written : α → String → Prop}
  {reads : α → List Token → Prop} {items : List α} {text : String}

/-- A separator keeps the tokens around it apart. -/
structure Separates (separator : String) (between : List Token) : Prop where
  /-- It keeps the token in front of it from going on. -/
  apart : ∀ rest, Apart (separator.toList ++ rest)
  /-- It spells these tokens, whatever comes next. -/
  spells : ∀ rest more, Spells rest more → Spells (separator.toList ++ rest) (between ++ more)

theorem Followed.apart (separates : Separates separator between)
    (followed : Followed "" separator written items text) {rest : List Char} (apart : Apart rest) :
    Apart (text.toList ++ rest) := by
  cases followed with
  | nil => exact apart
  | cons first others =>
      rw [String.toList_append, String.toList_append, List.append_assoc, List.append_assoc]
      exact separates.apart _

/-- Items that spell tokens do so behind each other. -/
theorem Followed.exists_spelling (separates : Separates separator between)
    (each : ∀ item ∈ items, ∀ text, written item text →
      ∃ tokens, reads item tokens ∧ Spelling text tokens)
    (followed : Followed "" separator written items text) :
    ∃ tokens, Followed [] between reads items tokens ∧ Spelling text tokens := by
  induction followed with
  | nil => exact ⟨[], .nil, fun rest more apart spelled => spelled⟩
  | @cons item items text rest first others induction =>
      obtain ⟨tokens, read, spelling⟩ := each item List.mem_cons_self _ first
      obtain ⟨tokens', reads', spelling'⟩ := induction fun other member =>
        each other (List.mem_cons_of_mem _ member)
      refine ⟨_, .cons read reads', ?_⟩
      intro behind more apart spelled
      have inner := spelling _ _ (others.apart separates apart) (spelling' _ _ apart spelled)
      have whole := separates.spells _ _ inner
      simpa [List.append_assoc] using whole

theorem Joined.exists_spelling (separates : Separates separator between)
    (each : ∀ item ∈ items, ∀ text, written item text →
      ∃ tokens, reads item tokens ∧ Spelling text tokens)
    (joined : Joined "" separator written items text) :
    ∃ tokens, Joined [] between reads items tokens ∧ Spelling text tokens := by
  cases joined with
  | nil => exact ⟨[], .nil, fun rest more apart spelled => spelled⟩
  | cons first others =>
      obtain ⟨tokens, read, spelling⟩ := each _ List.mem_cons_self _ first
      obtain ⟨tokens', reads', spelling'⟩ := others.exists_spelling separates fun other member =>
        each other (List.mem_cons_of_mem _ member)
      refine ⟨_, .cons read reads', ?_⟩
      intro behind more apart spelled
      have whole := spelling _ _ (others.apart separates apart) (spelling' _ _ apart spelled)
      simpa [List.append_assoc] using whole

theorem separates_space : Separates " " [] where
  apart _ := apart_cons rfl _
  spells _ _ spelled := spelled.space

theorem separates_comma : Separates ", " commaTokens where
  apart _ := apart_cons rfl _
  spells _ _ spelled := spelled.space.mark (by decide)

theorem separates_pipe : Separates " | " pipeTokens where
  apart _ := apart_cons rfl _
  spells _ _ spelled := (spelled.space.mark (by decide)).space

end Sequences

namespace Query

variable {settings : Settings}

/-! ## Parts of clauses as texts -/

theorem exists_spelling_value {value text : String} (written : WrittenValue value text) :
    ∃ tokens, ReadsValue value tokens ∧ Spelling text tokens := by
  cases written
  exact ⟨_, rfl, .quoted value⟩

/-- A word or an operator is one token. -/
theorem exists_spelling_name {name : String}
    (spelled : Text.IsWord name ∨ name ∈ Spells.operators) :
    ∃ kind, (kind = .ident ∨ kind = .operator) ∧ Spelling name [.bare kind name] := by
  rcases spelled with isWord | isOperator
  · exact ⟨.ident, .inl rfl, .word isWord⟩
  · exact ⟨.operator, .inr rfl, .operator isOperator⟩

theorem exists_spelling_constraint {constraint : Constraint} {text : String}
    (written : constraint.Written text) :
    ∃ tokens, ReadsConstraint constraint tokens ∧ Spelling text tokens := by
  obtain ⟨name, ⟨spelled, isRelation⟩, rfl⟩ := written
  obtain ⟨kind, isName, spelling⟩ := exists_spelling_name spelled
  exact ⟨_, ⟨kind, name, rfl, isName, isRelation⟩, spelling.space (.quoted constraint.version)⟩

theorem exists_spelling_software {software : Software} {text : String}
    (written : software.Written text) :
    ∃ tokens, ReadsSoftware software tokens ∧ Spelling text tokens := by
  obtain ⟨demands, followed, rfl⟩ := written
  have each : ∀ constraint ∈ software.versions, ∀ text, constraint.Written text →
      ∃ tokens, ReadsConstraint constraint tokens ∧ Spelling text tokens :=
    fun _ _ _ => exists_spelling_constraint
  obtain ⟨tokens, reads, spelling⟩ := followed.exists_spelling separates_space each
  refine ⟨_, ⟨tokens, reads, rfl⟩, ?_⟩
  intro rest more apart spelled
  have whole := (spelling rest more apart spelled).quoted software.name
  simpa [List.append_assoc] using whole

theorem exists_spelling_keyword (relation : Relation) :
    ∃ kind, (kind = .ident ∨ kind = .operator) ∧
      Spelling relation.keyword [.bare kind relation.keyword] := by
  apply exists_spelling_name
  cases relation with
  | eq => exact .inr (by decide)
  | _ => exact .inl (by decide +kernel)

theorem exists_spelling_bound {bound : Relation × Binary64} {text : String}
    (written : WrittenBound bound text) :
    ∃ tokens, ReadsBound bound tokens ∧ Spelling text tokens := by
  obtain ⟨word, isWord, read, rfl⟩ := written
  obtain ⟨kind, isName, spelling⟩ := exists_spelling_keyword bound.1
  exact ⟨_, ⟨kind, word, rfl, isName, read⟩, spelling.space (.word isWord)⟩

/-! ## Clauses as texts -/

theorem exists_spelling_oneOf {field text : String} {values : List String} {negated : Bool}
    (writes : settings.WritesField field) (listed : Joined "" ", " WrittenValue values text) :
    ∃ tokens, ReadsClause settings (.oneOf field values negated) tokens ∧
      Spelling (field ++ (if negated then " not in (" else " in (") ++ text ++ ")") tokens := by
  have each : ∀ value ∈ values, ∀ text, WrittenValue value text →
      ∃ tokens, ReadsValue value tokens ∧ Spelling text tokens :=
    fun _ _ _ => exists_spelling_value
  obtain ⟨tokens, reads, spelling⟩ := listed.exists_spelling separates_comma each
  have isIn : Text.IsWord "in" := by decide +kernel
  have isNot : Text.IsWord "not" := by decide +kernel
  have list := (Spelling.word isIn).space spelling.parenthesized
  cases negated with
  | false =>
      refine ⟨_, readsClause_oneOf writes reads, ?_⟩
      have whole := (Spelling.word writes.isWord).space list
      exact whole.congr (by simp)
  | true =>
      refine ⟨_, readsClause_notOneOf writes reads, ?_⟩
      have whole := (Spelling.word writes.isWord).space ((Spelling.word isNot).space list)
      exact whole.congr (by simp)

theorem exists_spelling_range {field text : String} {bounds : Bounds}
    (writes : settings.WritesField field) (wellFormed : bounds.WellFormed)
    (chained : Followed "" " " WrittenBound bounds.toList text) :
    ∃ tokens, ReadsClause settings (.range field bounds) tokens ∧
      Spelling (field ++ text) tokens := by
  have each : ∀ bound ∈ bounds.toList, ∀ text, WrittenBound bound text →
      ∃ tokens, ReadsBound bound tokens ∧ Spelling text tokens :=
    fun _ _ _ => exists_spelling_bound
  obtain ⟨tokens, reads, spelling⟩ := chained.exists_spelling separates_space each
  refine ⟨_, readsClause_range writes wellFormed reads, ?_⟩
  intro rest more apart spelled
  have behind := chained.apart separates_space apart
  have whole := Spelling.word writes.isWord _ _ behind (spelling _ _ apart spelled)
  simpa [List.append_assoc] using whole

theorem spelling_text {field operator : String} (text : String)
    (writes : settings.WritesField field) (isOperator : operator ∈ Spells.operators) :
    Spelling (field ++ " " ++ operator ++ " " ++ literal text)
      [.bare .ident field, .bare .operator operator, .bare .string text] :=
  ((Spelling.word writes.isWord).space (.operator isOperator)).space (.quoted text)

/-- The keyword of a request for software is a word or an operator. -/
theorem exists_spelling_softwareKeyword (fuzzy : Bool) :
    ∃ kind, (kind = .ident ∨ kind = .operator) ∧
      Spelling (SoftwareRequest.keyword fuzzy) [.bare kind (SoftwareRequest.keyword fuzzy)] := by
  apply exists_spelling_name
  cases fuzzy with
  | true => exact .inr (by decide)
  | false => exact .inl (by decide +kernel)

theorem exists_spelling_listed {entries : List Software} {fuzzy : Bool} {text : String}
    (nonempty : entries ≠ []) (listed : Joined "" ", " Software.Written entries text) :
    ∃ tokens,
      ReadsClause settings (.software { entries, listReference := none, fuzzy }) tokens ∧
        Spelling ("software " ++ SoftwareRequest.keyword fuzzy ++ " (" ++ text ++ ")")
          tokens := by
  have each : ∀ software ∈ entries, ∀ text, software.Written text →
      ∃ tokens, ReadsSoftware software tokens ∧ Spelling text tokens :=
    fun _ _ _ => exists_spelling_software
  obtain ⟨tokens, reads, spelling⟩ := listed.exists_spelling separates_comma each
  obtain ⟨kind, isName, keyword⟩ := exists_spelling_softwareKeyword fuzzy
  have isSoftware : Text.IsWord "software" := by decide +kernel
  refine ⟨_, readsClause_listed isName nonempty reads, ?_⟩
  have whole := ((Spelling.word isSoftware).space keyword).space spelling.parenthesized
  exact whole.congr (by simp)

theorem exists_spelling_referred {reference : String} (fuzzy : Bool)
    (isReference : Text.IsReference reference) :
    ∃ tokens,
      ReadsClause settings
          (.software { entries := [], listReference := some reference, fuzzy }) tokens ∧
        Spelling ("software " ++ SoftwareRequest.keyword fuzzy ++ " " ++ reference) tokens := by
  obtain ⟨kind, isName, keyword⟩ := exists_spelling_softwareKeyword fuzzy
  have isSoftware : Text.IsWord "software" := by decide +kernel
  refine ⟨_, readsClause_referred isName isReference, ?_⟩
  have whole := ((Spelling.word isSoftware).space keyword).space (.word isReference.isWord)
  exact whole.congr (by simp)

theorem exists_spelling_clause {clause : Clause} {text : String}
    (writable : clause.Writable settings) (written : Clause.Written settings clause text) :
    ∃ tokens, ReadsClause settings clause tokens ∧ Spelling text tokens := by
  cases written with
  | oneOf listed => exact exists_spelling_oneOf writable listed
  | range chained => exact exists_spelling_range writable.1 writable.2 chained
  | @matching field text writes =>
      have unnegated : Keyword.isNot "~" = false := by decide +kernel
      have asked : test? "~" = some (.text .matching) := by decide +kernel
      refine ⟨_, readsClause_text writes unnegated asked, ?_⟩
      have isOperator : "~" ∈ Spells.operators := by decide
      exact (spelling_text text writes isOperator).congr (by simp)
  | bare => exact ⟨_, readsClause_bare _, .quoted _⟩
  | @exact field text =>
      have unnegated : Keyword.isNot "=" = false := by decide +kernel
      have asked : test? "=" = some (.text .equal) := by decide +kernel
      refine ⟨_, readsClause_text writable unnegated asked, ?_⟩
      have isOperator : "=" ∈ Spells.operators := by decide
      exact (spelling_text text writable isOperator).congr (by simp)
  | @filter name =>
      have isFilter : Text.IsWord "filter" := by decide +kernel
      refine ⟨_, readsClause_filter name, ?_⟩
      exact ((Spelling.word isFilter).space (.quoted name)).congr (by simp)
  | @group field =>
      have isGroup : Text.IsWord "group" := by decide +kernel
      refine ⟨_, readsClause_group field, ?_⟩
      exact ((Spelling.word isGroup).space (.quoted field)).congr (by simp)
  | listed listed =>
      rcases writable with ⟨-, nonempty⟩ | ⟨-, reference, referred, -⟩
      · exact exists_spelling_listed nonempty listed
      · cases referred
  | referred =>
      rcases writable with ⟨notReferred, -⟩ | ⟨-, reference, referred, isReference⟩
      · cases notReferred
      · cases referred
        exact exists_spelling_referred _ isReference

/-! ## Reading back -/

/-- A text that spells the tokens of clauses is read as them. -/
theorem parse_of_spelling {clauses : List Clause} {text : String} {tokens : List Token}
    (reads : Joined [] pipeTokens (ReadsClause settings) clauses tokens)
    (spelling : Spelling text tokens) : parse settings text = .ok clauses := by
  have spelled := spelling [] [] apart_nil .nil
  rw [List.append_nil, List.append_nil] at spelled
  obtain ⟨placed, read, rfl⟩ := spelled.read_tolerant settings.tolerant
  have ended : ({ fault := none, length := 0 } : Ending).fault = none := rfl
  have outcome := outcome_joined_clauses reads ended
  apply parse_of_outcome
  simp only [run, Query.tokens, read]
  refine outcome_congr rfl rfl ?_ outcome
  rw [List.map_map]
  exact List.map_congr_left fun _ _ => rfl

/-- Clauses that can be written are written in some way, and every way to write them is read as
them. -/
theorem parse_written {clauses : List Clause}
    (writable : ∀ clause ∈ clauses, clause.Writable settings) :
    (∃ text, Query.Written settings clauses text) ∧
      ∀ text, Query.Written settings clauses text → parse settings text = .ok clauses := by
  refine ⟨Query.exists_written writable, fun text written => ?_⟩
  have each : ∀ clause ∈ clauses, ∀ text, Clause.Written settings clause text →
      ∃ tokens, ReadsClause settings clause tokens ∧ Spelling text tokens :=
    fun clause member _ => exists_spelling_clause (writable clause member)
  obtain ⟨tokens, reads, spelling⟩ := Joined.exists_spelling separates_pipe each written
  exact parse_of_spelling reads spelling

/-- A quote in a text is escaped, and a list may be empty. -/
theorem parse_written_escaped_quote :
    Query.Written (.ofFields ["severity", "tags"])
        [.exact "tags" "a\"b", .oneOf "severity" [] true]
        "tags = \"a\\\"b\" | severity not in ()" ∧
      parse (.ofFields ["severity", "tags"]) "tags = \"a\\\"b\" | severity not in ()" =
        .ok [.exact "tags" "a\"b", .oneOf "severity" [] true] := by
  have tags : (Settings.ofFields ["severity", "tags"]).WritesField "tags" :=
    ⟨⟨by decide +kernel, by decide +kernel⟩, by decide +kernel⟩
  have severity : (Settings.ofFields ["severity", "tags"]).WritesField "severity" :=
    ⟨⟨by decide +kernel, by decide +kernel⟩, by decide +kernel⟩
  have writable : ∀ clause ∈ [Clause.exact "tags" "a\"b", Clause.oneOf "severity" [] true],
      clause.Writable (.ofFields ["severity", "tags"]) :=
    List.forall_mem_cons.mpr ⟨tags, List.forall_mem_cons.mpr ⟨severity, List.forall_mem_nil _⟩⟩
  have text : "tags = \"a\\\"b\" | severity not in ()" =
      "tags" ++ " = " ++ literal "a\"b" ++
        (" | " ++ ("severity" ++ " not in (" ++ "" ++ ")") ++ "") := by
    decide +kernel
  have written : Query.Written (.ofFields ["severity", "tags"])
      [.exact "tags" "a\"b", .oneOf "severity" [] true]
      "tags = \"a\\\"b\" | severity not in ()" := by
    rw [text]
    exact .cons .exact (.cons (.oneOf .nil) .nil)
  exact ⟨written, (parse_written writable).2 _ written⟩

end Query
end PipeQuery

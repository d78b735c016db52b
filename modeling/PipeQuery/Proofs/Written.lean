import PipeQuery.Proofs.Number.Exact
import PipeQuery.Proofs.WellFormed

/-!
# Writing clauses

Clauses can be written in several ways: names of relations and numbers are any words or operators
that are read as them, and a text for the full-text field may stand alone.  A relation between
clauses and texts says which ways there are; every clause that a query can mean is written in one of
them (`Query.exists_written`).
-/

namespace PipeQuery

open Text.Quoted (literal)

/-! ## Sequences -/

/-- Items written behind each other, with a separator in front of each. -/
inductive Followed {α β : Type} [Append β] (nothing separator : β) (written : α → β → Prop) :
    List α → β → Prop
  | nil : Followed nothing separator written [] nothing
  | cons {item : α} {items : List α} {text rest : β} (first : written item text)
      (others : Followed nothing separator written items rest) :
      Followed nothing separator written (item :: items) (separator ++ text ++ rest)

/-- Items written behind each other, with a separator between them. -/
inductive Joined {α β : Type} [Append β] (nothing separator : β) (written : α → β → Prop) :
    List α → β → Prop
  | nil : Joined nothing separator written [] nothing
  | cons {item : α} {items : List α} {text rest : β} (first : written item text)
      (others : Followed nothing separator written items rest) :
      Joined nothing separator written (item :: items) (text ++ rest)

section Sequences

variable {α β : Type} [Append β] (nothing separator : β) {written : α → β → Prop} {items : List α}

theorem exists_followed (each : ∀ item ∈ items, ∃ text, written item text) :
    ∃ text, Followed nothing separator written items text := by
  induction items with
  | nil => exact ⟨nothing, .nil⟩
  | cons item items induction =>
      obtain ⟨text, first⟩ := each item List.mem_cons_self
      obtain ⟨rest, others⟩ := induction fun other member =>
        each other (List.mem_cons_of_mem _ member)
      exact ⟨_, .cons first others⟩

theorem exists_joined (each : ∀ item ∈ items, ∃ text, written item text) :
    ∃ text, Joined nothing separator written items text := by
  cases items with
  | nil => exact ⟨nothing, .nil⟩
  | cons item items =>
      obtain ⟨text, first⟩ := each item List.mem_cons_self
      obtain ⟨rest, others⟩ := exists_followed nothing separator
        fun other member => each other (List.mem_cons_of_mem _ member)
      exact ⟨_, .cons first others⟩

end Sequences

/-! ## Parts of clauses -/

/-- A value in quotes. -/
def WrittenValue (value text : String) : Prop :=
  text = literal value

/-- A relation in front of a version: any keyword for it. -/
def Relation.Written (relation : Relation) (name : String) : Prop :=
  (Text.IsWord name ∨ name ∈ Spells.operators) ∧ Keyword.relation? name = some relation

/-- A demand on a version. -/
def Constraint.Written (constraint : Constraint) (text : String) : Prop :=
  ∃ name, constraint.relation.Written name ∧ text = name ++ " " ++ literal constraint.version

/-- A software by name, and the demands on its version behind it. -/
def Software.Written (software : Software) (text : String) : Prop :=
  ∃ demands, Followed "" " " Constraint.Written software.versions demands ∧
    text = literal software.name ++ demands

/-- The keyword for a relation behind a field.  A single equals sign compares with a text there. -/
def Relation.keyword : Relation → String
  | gt => "gt"
  | gte => "gte"
  | lt => "lt"
  | lte => "lte"
  | eq => "=="

/-- A bound: the keyword for its relation and any word that is read as its number. -/
def WrittenBound (bound : Relation × Binary64) (text : String) : Prop :=
  ∃ word, Text.IsWord word ∧ Binary64.ofWord? word = some bound.2 ∧
    text = bound.1.keyword ++ " " ++ word

/-- The keyword of a request for software. -/
def SoftwareRequest.keyword (fuzzy : Bool) : String :=
  if fuzzy then "~" else "in"

/-! ## Clauses -/

/-- A name for a field that can be written as a word. -/
structure Settings.WritesField (settings : Settings) (field : String) : Prop where
  /-- It can be the field of a comparison. -/
  names : settings.NamesField field
  /-- It is a word. -/
  isWord : Text.IsWord field

/-- A name for a list of software, which is a word with an at sign in front. -/
structure Text.IsReference (reference : String) : Prop where
  /-- It is a word. -/
  isWord : Text.IsWord reference
  /-- It starts with an at sign. -/
  marked : reference.toList.head? = some '@'

/-- What a clause needs to be written. -/
def Clause.Writable (settings : Settings) : Clause → Prop
  | software request =>
      request.listReference = none ∧ request.entries ≠ [] ∨
        request.entries = [] ∧ ∃ reference, request.listReference = some reference ∧
          Text.IsReference reference
  | oneOf field _ _ => settings.WritesField field
  | range field bounds => settings.WritesField field ∧ bounds.WellFormed
  | matching field _ => settings.WritesField field ∨ field = settings.fullTextField
  | exact field _ => settings.WritesField field
  | filter _ => True
  | group _ => True

/-- The ways to write a clause. -/
inductive Clause.Written (settings : Settings) : Clause → String → Prop
  | oneOf {field text : String} {values : List String} {negated : Bool}
      (listed : Joined "" ", " WrittenValue values text) :
      Written settings (.oneOf field values negated)
        (field ++ (if negated then " not in (" else " in (") ++ text ++ ")")
  | range {field text : String} {bounds : Bounds}
      (chained : Followed "" " " WrittenBound bounds.toList text) :
      Written settings (.range field bounds) (field ++ text)
  | matching {field text : String} (writes : settings.WritesField field) :
      Written settings (.matching field text) (field ++ " ~ " ++ literal text)
  | bare {text : String} :
      Written settings (.matching settings.fullTextField text) (literal text)
  | exact {field text : String} :
      Written settings (.exact field text) (field ++ " = " ++ literal text)
  | filter {name : String} : Written settings (.filter name) ("filter " ++ literal name)
  | group {field : String} : Written settings (.group field) ("group " ++ literal field)
  | listed {entries : List Software} {fuzzy : Bool} {text : String}
      (listed : Joined "" ", " Software.Written entries text) :
      Written settings (.software { entries, listReference := none, fuzzy })
        ("software " ++ SoftwareRequest.keyword fuzzy ++ " (" ++ text ++ ")")
  | referred {reference : String} {fuzzy : Bool} :
      Written settings (.software { entries := [], listReference := some reference, fuzzy })
        ("software " ++ SoftwareRequest.keyword fuzzy ++ " " ++ reference)

/-- The ways to write clauses, with pipes between them. -/
def Query.Written (settings : Settings) : List Clause → String → Prop :=
  Joined "" " | " (Clause.Written settings)

/-! ## There is a way -/

theorem Relation.written_word (relation : Relation) : relation.Written relation.word := by
  cases relation <;> exact ⟨.inl (by decide +kernel), by decide +kernel⟩

theorem Software.exists_written (software : Software) : ∃ text, software.Written text := by
  have each : ∀ constraint ∈ software.versions, ∃ text, constraint.Written text :=
    fun constraint _ => ⟨_, constraint.relation.word, constraint.relation.written_word, rfl⟩
  obtain ⟨demands, followed⟩ := exists_followed "" " " each
  exact ⟨_, demands, followed, rfl⟩

theorem exists_writtenBound (bound : Relation × Binary64) : ∃ text, WrittenBound bound text := by
  obtain ⟨word, isWord, read⟩ := Binary64.exists_spelling bound.2
  exact ⟨_, word, isWord, read, rfl⟩

theorem Clause.exists_written {settings : Settings} {clause : Clause}
    (writable : clause.Writable settings) : ∃ text, Clause.Written settings clause text := by
  cases clause with
  | software request =>
      obtain ⟨entries, listReference, fuzzy⟩ := request
      rcases writable with ⟨notReferred, -⟩ | ⟨unlisted, reference, referred, -⟩
      · obtain rfl : listReference = none := notReferred
        have each : ∀ software ∈ entries, ∃ text, software.Written text :=
          fun software _ => software.exists_written
        obtain ⟨text, listed⟩ := exists_joined "" ", " each
        exact ⟨_, .listed listed⟩
      · obtain rfl : entries = [] := unlisted
        obtain rfl : listReference = some reference := referred
        exact ⟨_, .referred⟩
  | oneOf field values negated =>
      have each : ∀ value ∈ values, ∃ text, WrittenValue value text := fun value _ => ⟨_, rfl⟩
      obtain ⟨text, listed⟩ := exists_joined "" ", " each
      exact ⟨_, .oneOf listed⟩
  | range field bounds =>
      have each : ∀ bound ∈ bounds.toList, ∃ text, WrittenBound bound text :=
        fun bound _ => exists_writtenBound bound
      obtain ⟨text, chained⟩ := exists_followed "" " " each
      exact ⟨_, .range chained⟩
  | matching field text =>
      rcases writable with writes | rfl
      · exact ⟨_, .matching writes⟩
      · exact ⟨_, .bare⟩
  | exact field text => exact ⟨_, .exact⟩
  | filter name => exact ⟨_, .filter⟩
  | group field => exact ⟨_, .group⟩

/-- Every list of clauses that a query can mean is written in some way. -/
theorem Query.exists_written {settings : Settings} {clauses : List Clause}
    (writable : ∀ clause ∈ clauses, clause.Writable settings) :
    ∃ text, Query.Written settings clauses text :=
  exists_joined "" " | " fun clause member => Clause.exists_written (writable clause member)

end PipeQuery

import PipeQuery.Clause.Wire

/-!
# Values that are held back

The value of a clause is read at once where its tag is known, and is held back where it comes in
front of its tag.  What is read from it is the same but for one thing: a word as an object around an
empty object is a word only where it was held back (`Clause.ofValue?_direct_iff`).
-/

namespace PipeQuery
namespace Json

/-- A word as an object around an empty object. -/
def IsEmptyUnit (tree : Json) : Prop :=
  ∃ key, tree = .object [(key, .object [])]

theorem word?_direct_iff {tree : Json} {word : String} :
    tree.word? false = some word ↔ tree.word? true = some word ∧ ¬tree.IsEmptyUnit := by
  constructor
  · intro read
    refine ⟨?_, ?_⟩
    · unfold word? at read ⊢
      split at read <;> simp_all
    · rintro ⟨key, rfl⟩
      cases read
  · rintro ⟨read, plain⟩
    unfold word? at read ⊢
    split at read
    · exact read
    · exact read
    · exact absurd ⟨_, rfl⟩ plain
    · exact read

/-- What holds of each item of a list. -/
def EachItem (holds : Json → Prop) (tree : Json) : Prop :=
  ∀ items, tree = .array items → ∀ item ∈ items, holds item

private theorem mapM_direct_iff {α : Type} {direct? held? : Json → Option α} {plain : Json → Prop}
    (each : ∀ item value, direct? item = some value ↔ held? item = some value ∧ plain item)
    {items : List Json} {values : List α} :
    items.mapM direct? = some values ↔
      items.mapM held? = some values ∧ ∀ item ∈ items, plain item := by
  induction items generalizing values with
  | nil => simp
  | cons item items induction =>
      simp only [List.mapM_cons, bind, Option.bind_eq_some_iff, pure, each, induction,
        List.forall_mem_cons]
      constructor
      · rintro ⟨value, ⟨read, plain⟩, others, ⟨reads, plains⟩, made⟩
        exact ⟨⟨value, read, others, reads, made⟩, plain, plains⟩
      · rintro ⟨⟨value, read, others, reads, made⟩, plain, plains⟩
        exact ⟨value, ⟨read, plain⟩, others, ⟨reads, plains⟩, made⟩

theorem list?_direct_iff {α : Type} {direct? held? : Json → Option α} {plain : Json → Prop}
    (each : ∀ item value, direct? item = some value ↔ held? item = some value ∧ plain item)
    {tree : Json} {values : List α} :
    tree.list? direct? = some values ↔ tree.list? held? = some values ∧ tree.EachItem plain := by
  cases tree with
  | array items => simp [list?, EachItem, mapM_direct_iff each]
  | _ => simp [list?]

end Json

open Json

/-! ## Demands and software -/

namespace Constraint

/-- The operator of a demand is no object around an empty object. -/
def HasPlainOperator (tree : Json) : Prop :=
  ∀ operator version, tree.record? ["op", "value"] = some [some operator, version] →
    ¬operator.IsEmptyUnit

theorem ofJson?_eq_some_iff {held : Bool} {tree : Json} {demand : Constraint} :
    ofJson? held tree = some demand ↔ ∃ operator version,
      tree.record? ["op", "value"] = some [some operator, some version] ∧
      (∃ word, operator.word? held = some word ∧ Relation.ofWord? word = some demand.relation) ∧
      version.string? = some demand.version := by
  constructor
  · intro read
    obtain ⟨fields, found, read⟩ := Option.bind_eq_some_iff.mp read
    split at read
    · next operator version =>
        obtain ⟨relation, named, read⟩ := Option.bind_eq_some_iff.mp read
        obtain ⟨text, isText, made⟩ := Option.bind_eq_some_iff.mp read
        cases made
        exact ⟨operator, version, found, Option.bind_eq_some_iff.mp named, isText⟩
    · cases read
  · rintro ⟨operator, version, found, ⟨word, isWord, names⟩, isText⟩
    simp [ofJson?, found, Relation.ofJson?, isWord, names, isText]

theorem ofJson?_direct_iff {tree : Json} {demand : Constraint} :
    ofJson? false tree = some demand ↔
      ofJson? true tree = some demand ∧ HasPlainOperator tree := by
  rw [ofJson?_eq_some_iff, ofJson?_eq_some_iff]
  constructor
  · rintro ⟨operator, version, found, ⟨word, isWord, names⟩, isText⟩
    obtain ⟨isWord, plain⟩ := word?_direct_iff.mp isWord
    refine ⟨⟨operator, version, found, ⟨word, isWord, names⟩, isText⟩, ?_⟩
    intro operator' version' found'
    cases found.symm.trans found'
    exact plain
  · rintro ⟨⟨operator, version, found, ⟨word, isWord, names⟩, isText⟩, plain⟩
    have isWord := word?_direct_iff.mpr ⟨isWord, plain _ _ found⟩
    exact ⟨operator, version, found, ⟨word, isWord, names⟩, isText⟩

end Constraint

namespace Software

/-- The operators of a software are no objects around empty objects. -/
def HasPlainOperators (tree : Json) : Prop :=
  ∀ name demands, tree.record? ["name", "version"] = some [name, some demands] →
    demands.EachItem Constraint.HasPlainOperator

theorem ofJson?_eq_some_iff {held : Bool} {tree : Json} {software : Software} :
    ofJson? held tree = some software ↔ ∃ name demands,
      tree.record? ["name", "version"] = some [some name, some demands] ∧
      name.string? = some software.name ∧
      demands.list? (Constraint.ofJson? held) = some software.versions := by
  constructor
  · intro read
    obtain ⟨fields, found, read⟩ := Option.bind_eq_some_iff.mp read
    split at read
    · next name demands =>
        obtain ⟨text, isText, read⟩ := Option.bind_eq_some_iff.mp read
        obtain ⟨versions, areVersions, made⟩ := Option.bind_eq_some_iff.mp read
        cases made
        exact ⟨name, demands, found, isText, areVersions⟩
    · cases read
  · rintro ⟨name, demands, found, isText, areVersions⟩
    simp [ofJson?, found, isText, areVersions]

theorem ofJson?_direct_iff {tree : Json} {software : Software} :
    ofJson? false tree = some software ↔
      ofJson? true tree = some software ∧ HasPlainOperators tree := by
  have each : ∀ {demands : Json} {versions : List Constraint},
      demands.list? (Constraint.ofJson? false) = some versions ↔
        demands.list? (Constraint.ofJson? true) = some versions ∧
          demands.EachItem Constraint.HasPlainOperator :=
    list?_direct_iff fun _ _ => Constraint.ofJson?_direct_iff
  rw [ofJson?_eq_some_iff, ofJson?_eq_some_iff]
  constructor
  · rintro ⟨name, demands, found, isText, areVersions⟩
    obtain ⟨areVersions, plain⟩ := each.mp areVersions
    refine ⟨⟨name, demands, found, isText, areVersions⟩, ?_⟩
    intro name' demands' found'
    cases found.symm.trans found'
    exact plain
  · rintro ⟨⟨name, demands, found, isText, areVersions⟩, plain⟩
    exact ⟨name, demands, found, isText, each.mpr ⟨areVersions, plain _ _ found⟩⟩

end Software

namespace SoftwareRequest

/-- The operators of a request are no objects around empty objects. -/
def HasPlainOperators (tree : Json) : Prop :=
  ∀ entries listReference fuzzy,
    tree.record? ["software", "softwareList", "fuzzy"] =
        some [some entries, listReference, fuzzy] →
      entries.EachItem Software.HasPlainOperators

theorem ofJson?_eq_some_iff {held : Bool} {tree : Json} {request : SoftwareRequest} :
    ofJson? held tree = some request ↔ ∃ entries listReference fuzzy,
      tree.record? ["software", "softwareList", "fuzzy"] =
        some [some entries, listReference, fuzzy] ∧
      entries.list? (Software.ofJson? held) = some request.entries ∧
      optionalString? listReference = some request.listReference ∧
      flag? fuzzy = some request.fuzzy := by
  constructor
  · intro read
    obtain ⟨fields, found, read⟩ := Option.bind_eq_some_iff.mp read
    split at read
    · next entries listReference fuzzy =>
        obtain ⟨software, areSoftware, read⟩ := Option.bind_eq_some_iff.mp read
        obtain ⟨reference, isReference, read⟩ := Option.bind_eq_some_iff.mp read
        obtain ⟨flag, isFlag, made⟩ := Option.bind_eq_some_iff.mp read
        cases made
        exact ⟨entries, listReference, fuzzy, found, areSoftware, isReference, isFlag⟩
    · cases read
  · rintro ⟨entries, listReference, fuzzy, found, areSoftware, isReference, isFlag⟩
    simp [ofJson?, found, areSoftware, isReference, isFlag]

theorem ofJson?_direct_iff {tree : Json} {request : SoftwareRequest} :
    ofJson? false tree = some request ↔
      ofJson? true tree = some request ∧ HasPlainOperators tree := by
  have each : ∀ {entries : Json} {software : List Software},
      entries.list? (Software.ofJson? false) = some software ↔
        entries.list? (Software.ofJson? true) = some software ∧
          entries.EachItem Software.HasPlainOperators :=
    list?_direct_iff fun _ _ => Software.ofJson?_direct_iff
  rw [ofJson?_eq_some_iff, ofJson?_eq_some_iff]
  constructor
  · rintro ⟨entries, listReference, fuzzy, found, areSoftware, others⟩
    obtain ⟨areSoftware, plain⟩ := each.mp areSoftware
    refine ⟨⟨entries, listReference, fuzzy, found, areSoftware, others⟩, ?_⟩
    intro entries' listReference' fuzzy' found'
    cases found.symm.trans found'
    exact plain
  · rintro ⟨⟨entries, listReference, fuzzy, found, areSoftware, others⟩, plain⟩
    exact ⟨entries, listReference, fuzzy, found, each.mpr ⟨areSoftware, plain _ _ _ found⟩, others⟩

end SoftwareRequest

/-! ## Clauses -/

/-- A value that is read at once is read where it was held back, and the other way round unless an
operator in it is an object around an empty object. -/
theorem Clause.ofValue?_direct_iff {tag : String} {value : Json} {clause : Clause} :
    ofValue? false tag value = some clause ↔
      ofValue? true tag value = some clause ∧
        (tag = "software" → SoftwareRequest.HasPlainOperators value) := by
  by_cases isSoftware : tag = "software"
  · subst isSoftware
    simp only [ofValue?, Option.map_eq_some_iff, SoftwareRequest.ofJson?_direct_iff, true_implies]
    constructor
    · rintro ⟨request, ⟨read, plain⟩, made⟩
      exact ⟨⟨request, read, made⟩, plain⟩
    · rintro ⟨⟨request, read, made⟩, plain⟩
      exact ⟨request, ⟨read, plain⟩, made⟩
  · have same : ofValue? false tag value = ofValue? true tag value := by
      unfold ofValue?
      split
      · exact absurd rfl isSoftware
      all_goals rfl
    simp [same, isSoftware]

end PipeQuery

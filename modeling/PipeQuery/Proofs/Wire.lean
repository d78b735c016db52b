import PipeQuery.Clause.Wire
import PipeQuery.Proofs.Json.Tree
import PipeQuery.Proofs.Reading.Acceptance

/-!
# Clauses survive their text

What a record leaves out is what its reader takes for granted, so every part of a clause comes back
from its tree, and a list of clauses comes back from its text in either layout
(`Clause.readAll?_writeAll`).  Bounds that are not written as integers come back where their
numerals are read exactly.
-/

namespace PipeQuery
namespace Json

/-! ## Lists and records -/

@[simp]
theorem string?_ofString (value : String) : (ofString value).string? = some value := rfl

@[simp]
theorem optionalString?_none : optionalString? none = some none := rfl

@[simp]
theorem optionalString?_ofString (value : String) :
    optionalString? (some (ofString value)) = some (some value) := rfl

theorem list?_map {α : Type} {write : α → Json} {read? : Json → Option α} {values : List α}
    (back : ∀ value ∈ values, read? (write value) = some value) :
    (Json.array (values.map write)).list? read? = some values := by
  rw [list?]
  induction values with
  | nil => rfl
  | cons value values induction =>
      obtain ⟨first, later⟩ := List.forall_mem_cons.mp back
      simp [first, induction later]

theorem namedMembers?_ofMembers (members : List (String × Json)) :
    namedMembers? (members.map fun (key, value) => (some key, value)) = some members := by
  induction members with
  | nil => rfl
  | cons member members induction =>
      rw [namedMembers?] at induction ⊢
      simp [induction]

theorem record?_ofMembers (names : List String) (members : List (String × Json)) :
    (ofMembers members).record? names = names.mapM (member? members) := by
  simp [record?, ofMembers, namedMembers?_ofMembers]

theorem legible_ofMembers {members : List (String × Json)}
    (each : ∀ member ∈ members, member.2.Legible) : (ofMembers members).Legible := by
  refine .object fun member isMember => ?_
  obtain ⟨named, isNamed, rfl⟩ := List.mem_map.mp isMember
  exact each named isNamed

theorem legible_map {α : Type} {write : α → Json} (legible : ∀ value, (write value).Legible)
    (values : List α) : (Json.array (values.map write)).Legible := by
  refine .array fun item isItem => ?_
  obtain ⟨value, -, rfl⟩ := List.mem_map.mp isItem
  exact legible value

theorem legible_ofString (value : String) : (ofString value).Legible :=
  .string _

end Json

open Json

/-! ## Demands and software -/

@[simp]
theorem Relation.ofJson?_ofString (held : Bool) (relation : Relation) :
    Relation.ofJson? held (.ofString relation.word) = some relation := by
  simp [Relation.ofJson?, word?, ofString]

namespace Constraint

theorem ofJson?_toJson (held : Bool) (constraint : Constraint) :
    Constraint.ofJson? held constraint.toJson = some constraint := by
  simp [Constraint.ofJson?, toJson, record?_ofMembers, member?]

theorem legible_toJson (constraint : Constraint) : constraint.toJson.Legible := by
  apply legible_ofMembers
  simp [legible_ofString]

end Constraint

namespace Software

theorem ofJson?_toJson (held : Bool) (software : Software) :
    Software.ofJson? held software.toJson = some software := by
  have versions := list?_map fun constraint (_ : constraint ∈ software.versions) =>
    Constraint.ofJson?_toJson held constraint
  simp [Software.ofJson?, toJson, record?_ofMembers, member?, versions]

theorem legible_toJson (software : Software) : software.toJson.Legible := by
  apply legible_ofMembers
  simp [legible_ofString, legible_map Constraint.legible_toJson]

end Software

/-! ## Bounds -/

namespace Bounds

/-- The bounds that are not written as integers have numerals that are read exactly. -/
def ReadExactly (bounds : Bounds) : Prop :=
  ∀ relation value, bounds.get? relation = some value → ¬value.IsWrittenInteger →
    (boundLayout.numeral value.shortest).toBinary64? = some value

private theorem foldlM_addMember? {given : List (Relation × Binary64)}
    (exact : ∀ bound ∈ given, (boundNumeral bound.2).toBinary64? = some bound.2)
    (bounds : Bounds) :
    (given.map fun bound => (some bound.1.word, Json.number (boundNumeral bound.2))).foldlM
        addMember? bounds =
      some (given.foldl (fun bounds bound => bounds.set bound.1 bound.2) bounds) := by
  induction given generalizing bounds with
  | nil => rfl
  | cons bound given induction =>
      obtain ⟨first, later⟩ := List.forall_mem_cons.mp exact
      simp [addMember?, Json.number?, first, induction later]

theorem ofJson?_toJson {bounds : Bounds} (exact : bounds.ReadExactly) :
    Bounds.ofJson? bounds.toJson = some bounds := by
  have each : ∀ bound ∈ bounds.toList, (boundNumeral bound.2).toBinary64? = some bound.2 := by
    intro bound isBound
    obtain ⟨relation, -, given⟩ := List.mem_filterMap.mp isBound
    obtain ⟨value, found, rfl⟩ := Option.map_eq_some_iff.mp given
    by_cases written : value.IsWrittenInteger
    · exact toBinary64?_boundNumeral written
    · rw [boundNumeral_of_not_integer written]
      exact exact relation value found written
  have read := foldlM_addMember? each .empty
  rw [bounds.foldl_set_toList] at read
  have tree : bounds.toJson = .object (bounds.toList.map fun bound =>
      (some bound.1.word, Json.number (boundNumeral bound.2))) := by
    simp [toJson, ofMembers]
  rw [tree]
  exact read

theorem legible_toJson (bounds : Bounds) : bounds.toJson.Legible := by
  apply legible_ofMembers
  intro member isMember
  obtain ⟨bound, -, rfl⟩ := List.mem_map.mp isMember
  exact .number (isProper_boundNumeral bound.2)

end Bounds

/-! ## Clauses -/

theorem SoftwareRequest.ofJson?_valueToJson (held : Bool) (request : SoftwareRequest) :
    SoftwareRequest.ofJson? held (Clause.software request).valueToJson = some request := by
  obtain ⟨entries, listReference, fuzzy⟩ := request
  have read := list?_map fun entry (_ : entry ∈ entries) => Software.ofJson?_toJson held entry
  cases listReference <;>
    simp [SoftwareRequest.ofJson?, Clause.valueToJson, record?_ofMembers, member?, read,
      flag?, Json.bool?]

namespace Clause

/-- A clause whose bounds are read exactly. -/
def ReadExactly (clause : Clause) : Prop :=
  ∀ field bounds, clause = range field bounds → bounds.ReadExactly

theorem ofValue?_valueToJson {clause : Clause} (exact : clause.ReadExactly) :
    ofValue? false clause.tag clause.valueToJson = some clause := by
  cases clause with
  | software request => simp [ofValue?, tag, SoftwareRequest.ofJson?_valueToJson]
  | oneOf field values negated =>
      have read := list?_map fun value (_ : value ∈ values) =>
        string?_ofString value
      cases negated <;>
        simp [ofValue?, tag, valueToJson, record?_ofMembers, member?, read, flag?, Json.bool?]
  | range field bounds =>
      have read := Bounds.ofJson?_toJson (exact field bounds rfl)
      simp [ofValue?, tag, valueToJson, record?_ofMembers, member?, read]
  | _ =>
      simp [ofValue?, tag, valueToJson, comparisonOfJson?, record?_ofMembers, member?]

theorem ofJson?_toJson {clause : Clause} (exact : clause.ReadExactly) :
    Clause.ofJson? clause.toJson = some clause := by
  have read := ofValue?_valueToJson exact
  simp [Clause.ofJson?, toJson, ofMembers, namedMembers?, member?, valueComesFirst, word?,
    ofString, read]

theorem legible_valueToJson (clause : Clause) : clause.valueToJson.Legible := by
  cases clause with
  | software request =>
      obtain ⟨entries, listReference, fuzzy⟩ := request
      apply legible_ofMembers
      cases listReference <;>
        simp [legible_ofString, legible_map Software.legible_toJson, Legible.bool]
  | oneOf field values negated =>
      apply legible_ofMembers
      cases negated <;> simp [legible_ofString, legible_map legible_ofString, Legible.bool]
  | range field bounds =>
      apply legible_ofMembers
      simp [legible_ofString, Bounds.legible_toJson]
  | _ =>
      apply legible_ofMembers
      simp [legible_ofString]

theorem legible_toJson (clause : Clause) : clause.toJson.Legible := by
  apply legible_ofMembers
  simp [legible_ofString, legible_valueToJson]

/-- A list of clauses comes back from its text, be it compact or pretty. -/
theorem readAll?_writeAll {clauses : List Clause}
    (exact : ∀ clause ∈ clauses, clause.ReadExactly) (layout : Json.Layout) :
    readAll? (writeAll layout clauses) = some clauses := by
  have legible := legible_map legible_toJson clauses
  rw [readAll?, writeAll, Json.read?_write layout legible]
  exact list?_map fun clause isClause => ofJson?_toJson (exact clause isClause)

/-- The number `5.5`. -/
def elevenHalves : Binary64 where
  units := 11 * Nat.pow 2 1073
  representable := by decide +kernel

/-- Clauses with escaped characters, a fractional bound and every optional part. -/
def mixed : List Clause :=
  [.oneOf "t\"ags" ["\n", "\x01", "ü"] true,
    .range "cvss" { Bounds.empty with gt := some elevenHalves },
    .software {
      entries := [{ name := "a\\b", versions := [{ relation := .gte, version := "1" }] }]
      listReference := some "@list"
      fuzzy := true }]

theorem readAll?_writeAll_mixed :
    (∀ clause ∈ mixed, clause.ReadExactly) ∧
      readAll? (writeAll .pretty mixed) = some mixed := by
  have exact : ∀ clause ∈ mixed, clause.ReadExactly := by
    rintro _ isClause field bounds rfl relation value given -
    simp only [mixed, List.mem_cons, reduceCtorEq, range.injEq, List.not_mem_nil, or_false,
      false_or] at isClause
    obtain ⟨rfl, rfl⟩ := isClause
    cases relation with
    | gt =>
        obtain rfl : elevenHalves = value := Option.some.inj given
        decide +kernel
    | _ => cases given
  exact ⟨exact, readAll?_writeAll exact .pretty⟩

end Clause
end PipeQuery

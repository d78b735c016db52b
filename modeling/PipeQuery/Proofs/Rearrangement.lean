import PipeQuery.Proofs.HeldBack
import PipeQuery.Proofs.Json.Record
import PipeQuery.Proofs.Json.Spacing
import PipeQuery.Proofs.Wire

/-!
# Clauses do not depend on the layout of their text

The members of every object that belongs to a clause may stand in any order, unknown members may be
added, defaults may be written out or left out, and blanks may be changed: the clauses that are read
stay the same (`Clause.readAll?_rearranged`).  Only the place of a value matters, in front of its
tag or behind it: in front it has to be held back, which not every value can be, and behind it an
operator may not be an object around an empty object.
-/

namespace PipeQuery

open Json

/-! ## What may be rearranged -/

/-- No member of a record is there by default. -/
def noDefault (_ : String) (_ : Json) : Prop :=
  False

/-- No value of a record is exchanged. -/
def noExchange (_ : String) (_ _ : Json) : Prop :=
  False

/-- Two ways to write a demand. -/
def Constraint.Rearranged : Json → Json → Prop :=
  RearrangedRecord ["op", "value"] noDefault noExchange

/-- Two ways to write a software: its demands may be rearranged each. -/
def Software.Rearranged : Json → Json → Prop :=
  RearrangedRecord ["name", "version"] noDefault fun key tree tree' =>
    key = "version" ∧ EachAlike Constraint.Rearranged tree tree'

/-- Two ways to write a request: its entries may be rearranged each. -/
def SoftwareRequest.Rearranged : Json → Json → Prop :=
  RearrangedRecord ["software", "softwareList", "fuzzy"]
    (fun key value => key = "softwareList" ∧ value = .null ∨ key = "fuzzy" ∧ value = .bool false)
    fun key tree tree' => key = "software" ∧ EachAlike Software.Rearranged tree tree'

/-- Two ways to write bounds, of which no relation has two. -/
def Bounds.Rearranged (tree tree' : Json) : Prop :=
  ∃ members members', tree = .ofMembers members ∧ tree' = .ofMembers members' ∧
    members.Perm members' ∧ (members.map Prod.fst).Nodup

namespace Clause

/-- Two ways to write the value of a clause with a tag. -/
def ValueRearranged (tag : String) : Json → Json → Prop :=
  match tag with
  | "software" => SoftwareRequest.Rearranged
  | "in" =>
      RearrangedRecord ["field", "query", "negated"]
        (fun key value => key = "negated" ∧ value = .bool false) noExchange
  | "range" =>
      RearrangedRecord ["field", "query"] noDefault fun key tree tree' =>
        key = "query" ∧ Bounds.Rearranged tree tree'
  | "filter" => RearrangedRecord ["filter"] noDefault noExchange
  | "group" => RearrangedRecord ["field"] noDefault noExchange
  | _ => RearrangedRecord ["field", "query"] noDefault noExchange

/-- Two ways to write a clause as an object: its value may be rearranged as its tag allows. -/
inductive Rearranged : Json → Json → Prop where
  | intro {members members' : List (String × Json)} {tagTree : Json} {tag : String}
      (typed : ("type", tagTree) ∈ members) (tagged : tagTree.word? false = some tag)
      (rearranged : Json.Rearranged ["type", "value"] noDefault
        (fun key tree tree' => key = "value" ∧ ValueRearranged tag tree tree') members members') :
      Rearranged (.ofMembers members) (.ofMembers members')

end Clause

/-! ## Demands and software -/

private theorem mapM_congr {α β : Type} {first second : α → Option β} {items : List α}
    (same : ∀ item ∈ items, first item = second item) : items.mapM first = items.mapM second := by
  induction items with
  | nil => rfl
  | cons item items induction =>
      obtain ⟨head, tail⟩ := List.forall_mem_cons.mp same
      rw [List.mapM_cons, List.mapM_cons, head, induction tail]

/-- Without defaults and exchanges the fields of a record are the same. -/
theorem Json.record?_of_rearranged {names : List String} {tree tree' : Json}
    (rearranged : RearrangedRecord names noDefault noExchange tree tree') :
    tree.record? names = tree'.record? names := by
  obtain ⟨members, members', rfl, rfl, rearranged⟩ := rearranged
  rw [record?_ofMembers, record?_ofMembers]
  refine mapM_congr fun name isName => ?_
  have same : (member? members name).bind some = (member? members' name).bind some :=
    bind_member?_of_rearranged isName (fun _ => False.elim) (fun _ _ => False.elim) rearranged
  simpa using same

theorem Constraint.ofJson?_rearranged {tree tree' : Json} (held : Bool)
    (rearranged : Constraint.Rearranged tree tree') :
    Constraint.ofJson? held tree = Constraint.ofJson? held tree' := by
  rw [Constraint.ofJson?, Constraint.ofJson?, record?_of_rearranged rearranged]

theorem Software.ofJson?_ofMembers (held : Bool) (members : List (String × Json)) :
    Software.ofJson? held (.ofMembers members) = do
      let name ← (member? members "name").bind (·.bind string?)
      let versions ← (member? members "version").bind (·.bind (list? (Constraint.ofJson? held)))
      return { name, versions } := by
  simp only [Software.ofJson?, record?_ofMembers, List.mapM_cons, List.mapM_nil]
  rcases member? members "name" with _ | _ | name <;>
    rcases member? members "version" with _ | _ | versions <;> simp

theorem Software.ofJson?_rearranged {tree tree' : Json} (held : Bool)
    (rearranged : Software.Rearranged tree tree') :
    Software.ofJson? held tree = Software.ofJson? held tree' := by
  obtain ⟨members, members', rfl, rfl, rearranged⟩ := rearranged
  have name : (member? members "name").bind (·.bind string?) =
      (member? members' "name").bind (·.bind string?) :=
    bind_member?_of_rearranged (by simp) (fun _ => False.elim)
      (fun _ _ same => absurd same.1 (by decide)) rearranged
  have versions : (member? members "version").bind (·.bind (list? (Constraint.ofJson? held))) =
      (member? members' "version").bind (·.bind (list? (Constraint.ofJson? held))) := by
    refine bind_member?_of_rearranged (by simp) (fun _ => False.elim) ?_ rearranged
    rintro versions versions' ⟨-, each⟩
    exact list?_of_eachAlike each (Constraint.ofJson?_rearranged held)
  rw [ofJson?_ofMembers, ofJson?_ofMembers, name, versions]

theorem SoftwareRequest.ofJson?_ofMembers (held : Bool) (members : List (String × Json)) :
    SoftwareRequest.ofJson? held (.ofMembers members) = do
      let entries ← (member? members "software").bind (·.bind (list? (Software.ofJson? held)))
      let listReference ← (member? members "softwareList").bind optionalString?
      let fuzzy ← (member? members "fuzzy").bind flag?
      return { entries, listReference, fuzzy } := by
  simp only [SoftwareRequest.ofJson?, record?_ofMembers, List.mapM_cons, List.mapM_nil]
  rcases member? members "software" with _ | _ | entries <;>
    rcases member? members "softwareList" with _ | listReference <;>
    rcases member? members "fuzzy" with _ | fuzzy <;> simp

theorem SoftwareRequest.ofJson?_rearranged {tree tree' : Json} (held : Bool)
    (rearranged : SoftwareRequest.Rearranged tree tree') :
    SoftwareRequest.ofJson? held tree = SoftwareRequest.ofJson? held tree' := by
  obtain ⟨members, members', rfl, rfl, rearranged⟩ := rearranged
  have entries : (member? members "software").bind (·.bind (list? (Software.ofJson? held))) =
      (member? members' "software").bind (·.bind (list? (Software.ofJson? held))) := by
    refine bind_member?_of_rearranged (by simp) (by simp) ?_ rearranged
    rintro entries entries' ⟨-, each⟩
    exact list?_of_eachAlike each (Software.ofJson?_rearranged held)
  have listReference : (member? members "softwareList").bind optionalString? =
      (member? members' "softwareList").bind optionalString? :=
    bind_member?_of_rearranged (by simp) (by simp [optionalString?])
      (fun _ _ same => absurd same.1 (by decide)) rearranged
  have fuzzy : (member? members "fuzzy").bind flag? = (member? members' "fuzzy").bind flag? :=
    bind_member?_of_rearranged (by simp) (by simp [flag?, bool?])
      (fun _ _ same => absurd same.1 (by decide)) rearranged
  rw [ofJson?_ofMembers, ofJson?_ofMembers, entries, listReference, fuzzy]

/-! ## Bounds -/

namespace Bounds

theorem set_comm (bounds : Bounds) {first second : Relation} (different : first ≠ second)
    (value value' : Binary64) :
    (bounds.set first value).set second value' = (bounds.set second value').set first value := by
  cases first <;> cases second <;> first | rfl | exact absurd rfl different

/-- A word names its relation, so two words name two relations. -/
theorem eq_of_ofWord? {word word' : String} {relation : Relation}
    (named : Relation.ofWord? word = some relation)
    (named' : Relation.ofWord? word' = some relation) : word = word' := by
  have first : relation.word = word := by simpa using List.find?_some named
  have second : relation.word = word' := by simpa using List.find?_some named'
  exact first.symm.trans second

theorem addMember?_comm (bounds : Bounds) {member member' : Option String × Json}
    (different : member.1 ≠ member'.1) :
    (bounds.addMember? member).bind (·.addMember? member') =
      (bounds.addMember? member').bind (·.addMember? member) := by
  simp only [addMember?, bind, pure]
  cases named : member.1.bind Relation.ofWord? with
  | none => simp
  | some first =>
      cases named' : member'.1.bind Relation.ofWord? with
      | none => simp
      | some second =>
          have apart : first ≠ second := by
            rintro rfl
            obtain ⟨word, isWord, names⟩ := Option.bind_eq_some_iff.mp named
            obtain ⟨word', isWord', names'⟩ := Option.bind_eq_some_iff.mp named'
            rw [isWord, isWord', eq_of_ofWord? names names'] at different
            exact different rfl
          cases member.2.number? <;> cases member'.2.number? <;> simp [set_comm bounds apart]

/-- Bounds for different relations may come in any order. -/
theorem foldlM_addMember?_perm {members members' : List (Option String × Json)}
    (perm : members.Perm members') (distinct : (members.map Prod.fst).Nodup) (bounds : Bounds) :
    members.foldlM addMember? bounds = members'.foldlM addMember? bounds := by
  induction perm generalizing bounds with
  | nil => rfl
  | cons member _ induction =>
      rw [List.foldlM_cons, List.foldlM_cons]
      congr 1
      funext next
      exact induction (List.nodup_cons.mp distinct).2 next
  | swap member member' members =>
      have different : member'.1 ≠ member.1 := by
        intro same
        exact (List.nodup_cons.mp distinct).1 (by simp [same])
      have swapped := addMember?_comm bounds different
      simp only [List.foldlM_cons, bind, ← Option.bind_assoc, swapped]
  | trans first _ induction induction' =>
      have distinct' := (first.map Prod.fst).nodup_iff.mp distinct
      exact (induction distinct bounds).trans (induction' distinct' bounds)

theorem ofJson?_rearranged {tree tree' : Json} (rearranged : Bounds.Rearranged tree tree') :
    ofJson? tree = ofJson? tree' := by
  obtain ⟨members, members', rfl, rfl, perm, distinct⟩ := rearranged
  refine foldlM_addMember?_perm (perm.map _) ?_ empty
  rw [List.Nodup, List.pairwise_map] at distinct ⊢
  exact List.pairwise_map.mpr (distinct.imp fun different same => different (Option.some.inj same))

end Bounds

/-! ## Values -/

namespace Clause

theorem ofValue?_in (held : Bool) (members : List (String × Json)) :
    ofValue? held "in" (.ofMembers members) = do
      let field ← (member? members "field").bind (·.bind string?)
      let values ← (member? members "query").bind (·.bind (list? string?))
      let negated ← (member? members "negated").bind flag?
      return oneOf field values negated := by
  simp only [ofValue?, record?_ofMembers, List.mapM_cons, List.mapM_nil]
  rcases member? members "field" with _ | _ | field <;>
    rcases member? members "query" with _ | _ | values <;>
    rcases member? members "negated" with _ | negated <;> simp

theorem ofValue?_range (held : Bool) (members : List (String × Json)) :
    ofValue? held "range" (.ofMembers members) = do
      let field ← (member? members "field").bind (·.bind string?)
      let bounds ← (member? members "query").bind (·.bind Bounds.ofJson?)
      return range field bounds := by
  simp only [ofValue?, record?_ofMembers, List.mapM_cons, List.mapM_nil]
  rcases member? members "field" with _ | _ | field <;>
    rcases member? members "query" with _ | _ | bounds <;> simp

/-- What is read as the value of a clause does not depend on how it is written. -/
theorem ofValue?_rearranged {tag : String} {value value' : Json} (held : Bool)
    (rearranged : ValueRearranged tag value value') :
    ofValue? held tag value = ofValue? held tag value' := by
  unfold ValueRearranged at rearranged
  split at rearranged
  · simp only [ofValue?, SoftwareRequest.ofJson?_rearranged held rearranged]
  · obtain ⟨members, members', rfl, rfl, rearranged⟩ := rearranged
    have plain : ∀ {α : Type} {name : String} (read? : Option Json → Option α),
        name = "field" ∨ name = "query" → (member? members name).bind read? =
          (member? members' name).bind read? := by
      intro α name read? isName
      refine bind_member?_of_rearranged ?_ ?_ (fun _ _ => False.elim) rearranged
      · rcases isName with rfl | rfl <;> simp
      · rintro value ⟨rfl, -⟩
        exact absurd isName (by decide)
    have negated : (member? members "negated").bind flag? =
        (member? members' "negated").bind flag? :=
      bind_member?_of_rearranged (by simp) (by simp [flag?, bool?]) (fun _ _ => False.elim)
        rearranged
    rw [ofValue?_in, ofValue?_in, plain _ (by simp), plain _ (by simp), negated]
  · obtain ⟨members, members', rfl, rfl, rearranged⟩ := rearranged
    have field : (member? members "field").bind (·.bind string?) =
        (member? members' "field").bind (·.bind string?) :=
      bind_member?_of_rearranged (by simp) (fun _ => False.elim)
        (fun _ _ same => absurd same.1 (by decide)) rearranged
    have bounds : (member? members "query").bind (·.bind Bounds.ofJson?) =
        (member? members' "query").bind (·.bind Bounds.ofJson?) :=
      bind_member?_of_rearranged (by simp) (fun _ => False.elim)
        (fun _ _ same => Bounds.ofJson?_rearranged same.2) rearranged
    rw [ofValue?_range, ofValue?_range, field, bounds]
  · simp only [ofValue?, record?_of_rearranged rearranged]
  · simp only [ofValue?, record?_of_rearranged rearranged]
  · next notSoftware notIn notRange notFilter notGroup =>
      unfold ofValue?
      split
      · exact absurd rfl notSoftware
      · exact absurd rfl notIn
      · exact absurd rfl notRange
      · rw [comparisonOfJson?, comparisonOfJson?, record?_of_rearranged rearranged]
      · rw [comparisonOfJson?, comparisonOfJson?, record?_of_rearranged rearranged]
      · exact absurd rfl notFilter
      · exact absurd rfl notGroup
      · rfl

end Clause

/-! ## Clauses -/

/-- A member that is found is the only one of its key. -/
theorem Json.eq_of_member? {members : List (String × Json)} {name : String} {value value' : Json}
    (found : member? members name = some (some value)) (isMember : (name, value') ∈ members) :
    value' = value := by
  have isFound : (name, value') ∈ members.filter (·.1 == name) :=
    List.mem_filter.mpr ⟨isMember, beq_self_eq_true name⟩
  unfold member? at found
  split at found
  · cases found
  · next filtered =>
      cases found
      rw [filtered, List.mem_singleton] at isFound
      exact congrArg Prod.snd isFound
  · cases found

namespace Clause

/-- An object of a tag and a value. -/
def Tagged (tree : Json) (tag : String) (value : Json) : Prop :=
  ∃ members tagTree, tree = .ofMembers members ∧
    member? members "type" = some (some tagTree) ∧ tagTree.word? false = some tag ∧
    member? members "value" = some (some value)

/-- The value of an object comes before its tag. -/
def ValueFirst (tree : Json) : Prop :=
  ∃ members, tree = .ofMembers members ∧ valueComesFirst members = true

/-- Where the value stands in the object of a clause, it can be read. -/
structure Admissible (tree : Json) : Prop where
  /-- A value that comes before its tag can be held back. -/
  held : ∀ tag value, Tagged tree tag value → ValueFirst tree → canBeHeld value = true
  /-- A value that comes behind its tag has no operator that would have to be held back. -/
  plain : ∀ value, Tagged tree "software" value → ¬ValueFirst tree →
    SoftwareRequest.HasPlainOperators value

variable {tree : Json} {tag : String} {value : Json} {clause : Clause}

theorem Tagged.unique {tag' : String} {value' : Json} (tagged : Tagged tree tag value)
    (tagged' : Tagged tree tag' value') : tag = tag' ∧ value = value' := by
  obtain ⟨members, tagTree, rfl, isTag, isWord, isValue⟩ := tagged
  obtain ⟨members', tagTree', same, isTag', isWord', isValue'⟩ := tagged'
  obtain rfl := ofMembers_injective same
  rw [isTag, Option.some.injEq, Option.some.injEq] at isTag'
  rw [isTag', isWord', Option.some.injEq] at isWord
  rw [isValue, Option.some.injEq, Option.some.injEq] at isValue'
  exact ⟨isWord.symm, isValue'⟩

theorem valueFirst_ofMembers {members : List (String × Json)} :
    ValueFirst (.ofMembers members) ↔ valueComesFirst members = true := by
  constructor
  · rintro ⟨members', same, first⟩
    rwa [ofMembers_injective same]
  · exact fun first => ⟨members, rfl, first⟩

theorem admissible_iff (tagged : Tagged tree tag value) :
    Admissible tree ↔ (ValueFirst tree → canBeHeld value = true) ∧
      (¬ValueFirst tree → tag = "software" → SoftwareRequest.HasPlainOperators value) := by
  constructor
  · intro admissible
    refine ⟨admissible.held tag value tagged, fun behind isSoftware => ?_⟩
    exact admissible.plain value (isSoftware ▸ tagged) behind
  · rintro ⟨held, plain⟩
    constructor
    · intro tag' value' tagged' first
      obtain ⟨rfl, rfl⟩ := tagged.unique tagged'
      exact held first
    · intro value' tagged' behind
      obtain ⟨rfl, rfl⟩ := tagged.unique tagged'
      exact plain behind rfl

/-- An object is a clause when its value is one as if it had been held back, and it may stand where
it stands. -/
theorem ofJson?_iff_of_tagged (tagged : Tagged tree tag value) :
    ofJson? tree = some clause ↔ ofValue? true tag value = some clause ∧ Admissible tree := by
  rw [admissible_iff tagged]
  obtain ⟨members, tagTree, rfl, isTag, isWord, isValue⟩ := tagged
  rw [valueFirst_ofMembers]
  have read : ofJson? (.ofMembers members) =
      if valueComesFirst members && !canBeHeld value then none
      else ofValue? (valueComesFirst members) tag value := by
    simp [ofMembers, ofJson?, namedMembers?_ofMembers, isTag, isValue, isWord]
  rw [read]
  cases valueComesFirst members with
  | true => cases canBeHeld value <;> simp
  | false => simp [ofValue?_direct_iff]

theorem exists_tagged {members : List (String × Json)}
    (read : ofJson? (.ofMembers members) = some clause) :
    ∃ tag value, Tagged (.ofMembers members) tag value := by
  simp only [ofMembers, ofJson?, namedMembers?_ofMembers, bind, Option.bind_some,
    Option.bind_eq_some_iff] at read
  obtain ⟨typed, isTag, valued, isValue, read⟩ := read
  split at read
  · next tagTree value =>
      obtain ⟨-, read⟩ := (Option.ite_none_left_eq_some ..).mp read
      obtain ⟨tag, isWord, -⟩ := Option.bind_eq_some_iff.mp read
      exact ⟨tag, value, members, tagTree, rfl, isTag, isWord, isValue⟩
  · cases read

/-- A rearranged object has the same tag, and its value is read as the same. -/
theorem Rearranged.exists_tagged {tree' : Json} (rearranged : Rearranged tree tree')
    (tagged : Tagged tree tag value) : ∃ value', Tagged tree' tag value' ∧
      ∀ held, ofValue? held tag value = ofValue? held tag value' := by
  obtain ⟨typed, isWord, rearranged⟩ := rearranged
  next members members' tagTree tag' =>
  obtain ⟨_, _, same, isTag, isWord', isValue⟩ := tagged
  obtain rfl := ofMembers_injective same
  obtain rfl := eq_of_member? isTag typed
  obtain rfl : tag = tag' := Option.some.inj (isWord'.symm.trans isWord)
  have types : (member? members "type").bind some = (member? members' "type").bind some :=
    bind_member?_of_rearranged (by simp) (fun _ => False.elim)
      (fun _ _ same => absurd same.1 (by decide)) rearranged
  -- Both ways of reading are exchanged at once, so a value stands for a function of the way.
  let read? (found : Option Json) : Option (Option (Bool → Option Clause)) :=
    some (found.map fun value held => ofValue? held tag value)
  have values : (member? members "value").bind read? = (member? members' "value").bind read? := by
    refine bind_member?_of_rearranged (by simp) (fun _ => False.elim) ?_ rearranged
    rintro value value' ⟨-, same⟩
    exact congrArg (some ∘ some) (funext fun held => ofValue?_rearranged held same)
  have isTag' : member? members' "type" = some (some tagTree) := by simpa [isTag] using types.symm
  rw [isValue, Option.bind_some, eq_comm, Option.bind_eq_some_iff] at values
  obtain ⟨found, isValue', rereads⟩ := values
  obtain ⟨value', rfl, same⟩ := Option.map_eq_some_iff.mp (Option.some.inj rereads)
  exact ⟨value', ⟨members', tagTree, rfl, isTag', isWord, isValue'⟩,
    fun held => (congrFun same held).symm⟩

theorem admissible_of_ofJson? (read : ofJson? tree = some clause) : Admissible tree where
  held tag value tagged := ((ofJson?_iff_of_tagged tagged).mp read).2.held tag value tagged
  plain value tagged := ((ofJson?_iff_of_tagged tagged).mp read).2.plain value tagged

private theorem mapM_iff_of_forall₂ {α β : Type} {read? : α → Option β} {allowed : α → Prop}
    {items items' : List α} {values : List β}
    (each : List.Forall₂ (fun item item' => ∀ value, read? item = some value →
      ∀ value', read? item' = some value' ↔ value' = value ∧ allowed item') items items')
    (read : items.mapM read? = some values) (values' : List β) :
    items'.mapM read? = some values' ↔ values' = values ∧ ∀ item ∈ items', allowed item := by
  induction each generalizing values values' with
  | nil =>
      cases read
      simp [eq_comm]
  | cons first _ induction =>
      simp only [List.mapM_cons, bind, Option.bind_eq_some_iff, pure, Option.some.injEq] at read
      obtain ⟨value, found, others, rest, rfl⟩ := read
      simp only [List.mapM_cons, bind, Option.bind_eq_some_iff, pure, Option.some.injEq,
        first value found, induction rest, List.forall_mem_cons]
      constructor
      · rintro ⟨_, ⟨rfl, allowed⟩, _, ⟨rfl, allAllowed⟩, rfl⟩
        exact ⟨rfl, allowed, allAllowed⟩
      · rintro ⟨rfl, allowed, allAllowed⟩
        exact ⟨_, ⟨rfl, allowed⟩, _, ⟨rfl, allAllowed⟩, rfl⟩

/-- A rearranged clause is the same clause where it may stand as it stands, and no clause
otherwise. -/
theorem ofJson?_rearranged_iff {tree' : Json} (rearranged : tree = tree' ∨ Rearranged tree tree')
    (read : ofJson? tree = some clause) (decoded : Clause) :
    ofJson? tree' = some decoded ↔ decoded = clause ∧ Admissible tree' := by
  rcases rearranged with rfl | rearranged
  · rw [read, Option.some.injEq, @eq_comm _ clause, and_iff_left (admissible_of_ofJson? read)]
  · obtain ⟨members, rfl⟩ : ∃ members, tree = .ofMembers members := by
      cases rearranged
      exact ⟨_, rfl⟩
    obtain ⟨tag, value, tagged⟩ := exists_tagged read
    obtain ⟨value', tagged', same⟩ := rearranged.exists_tagged tagged
    have isClause := ((ofJson?_iff_of_tagged tagged).mp read).1
    rw [ofJson?_iff_of_tagged tagged', ← same, isClause, Option.some.injEq, @eq_comm _ clause]

/-- The clauses of a text in another arrangement and with other blanks are the same clauses where
each may stand as it stands, and no clauses otherwise. -/
theorem readAll?_rearranged {text text' spaced : String} {clauses : List Clause}
    {items items' : List Json} (accepted : readAll? text = some clauses)
    (read : Json.read? text = some (.array items))
    (read' : Json.read? text' = some (.array items'))
    (rearranged :
      List.Forall₂ (fun item item' => item = item' ∨ Rearranged item item') items items')
    (respaced : Respaced text'.toList spaced.toList) (decoded : List Clause) :
    readAll? spaced = some decoded ↔
      decoded = clauses ∧ ∀ item ∈ items', Admissible item := by
  rw [readAll?, read?_respaced read' respaced]
  rw [readAll?, read] at accepted
  exact mapM_iff_of_forall₂
    (rearranged.imp fun _ _ rearranged _ => ofJson?_rearranged_iff rearranged) accepted decoded

/-- A clause with its tag in front of its value. -/
def tagFirst (tag : String) (value : Json) : Json :=
  .ofMembers [("type", .ofString tag), ("value", value)]

/-- A clause with its tag behind its value. -/
def tagLast (tag : String) (value : Json) : Json :=
  .ofMembers [("value", value), ("type", .ofString tag)]

/-- A list clause with its tag in front. -/
def listed : Json :=
  tagFirst "in" <| .ofMembers [("field", .ofString "tags"), ("query", .array [.ofString "a"])]

/-- The list clause with an unknown member, a default and its tag behind. -/
def listedLoosely : Json :=
  .ofMembers
    [("note", .null),
      ("value", .ofMembers
        [("negated", .bool false), ("query", .array [.ofString "a"]),
          ("field", .ofString "tags")]),
      ("type", .ofString "in")]

/-- A software clause with its tag behind. -/
def required : Json :=
  tagLast "software" <| .ofMembers
    [("software", .array [.ofMembers
      [("name", .ofString "b"),
        ("version", .array [.ofMembers [("op", .ofString "gt"), ("value", .ofString "1")]])]])]

/-- The software clause with defaults and its tag in front. -/
def requiredLoosely : Json :=
  tagFirst "software" <| .ofMembers
    [("softwareList", .null), ("fuzzy", .bool false),
      ("software", .array [.ofMembers
        [("version", .array [.ofMembers [("value", .ofString "1"), ("op", .ofString "gt")]]),
          ("name", .ofString "b")]])]

private theorem rearranged_listed : Rearranged listed listedLoosely := by
  refine .intro List.mem_cons_self rfl ?_
  have value : ValueRearranged "in"
      (.ofMembers [("field", .ofString "tags"), ("query", .array [.ofString "a"])])
      (.ofMembers
        [("negated", .bool false), ("query", .array [.ofString "a"]),
          ("field", .ofString "tags")]) :=
    ⟨_, _, rfl, rfl, .followed (.reordered (.swap _ _ _)) (.written ⟨rfl, rfl⟩ (by decide))⟩
  exact .followed (.reordered (.swap _ _ _))
    (.followed (.exchanged ⟨rfl, value⟩) (.added (by decide)))

private theorem admissible_listed : Admissible listedLoosely := by
  refine (admissible_iff ⟨_, _, rfl, rfl, rfl, rfl⟩).mpr ⟨fun _ => ?_, fun behind => ?_⟩
  · decide +kernel
  · exact absurd (valueFirst_ofMembers.mpr (by decide)) behind

private theorem rearranged_required : Rearranged required requiredLoosely := by
  have demand : Constraint.Rearranged
      (.ofMembers [("op", .ofString "gt"), ("value", .ofString "1")])
      (.ofMembers [("value", .ofString "1"), ("op", .ofString "gt")]) :=
    ⟨_, _, rfl, rfl, .reordered (.swap _ _ _)⟩
  have software : Software.Rearranged _ _ :=
    ⟨_, _, rfl, rfl, .followed (.reordered (.swap _ ("name", .ofString "b") []))
      (.exchanged ⟨rfl, _, _, rfl, rfl, .cons (.inr demand) .nil⟩)⟩
  have request : SoftwareRequest.Rearranged (.ofMembers [("software", .array [_])]) _ :=
    ⟨_, _, rfl, rfl, .followed (.exchanged ⟨rfl, _, _, rfl, rfl, .cons (.inr software) .nil⟩)
      (.followed (.written (.inr ⟨rfl, rfl⟩) (by decide)) (.written (.inl ⟨rfl, rfl⟩) (by decide)))⟩
  exact .intro (List.mem_cons_of_mem _ List.mem_cons_self) rfl
    (.followed (.exchanged ⟨rfl, request⟩) (.reordered (.swap _ _ _)))

private theorem admissible_required : Admissible requiredLoosely := by
  refine (admissible_iff ⟨_, _, rfl, rfl, rfl, rfl⟩).mpr ⟨fun first => ?_, fun _ _ => ?_⟩
  · exact absurd (valueFirst_ofMembers.mp first) (by decide)
  · intro entries listReference fuzzy found _ same entry isEntry name demands found' _ same' demand
      isDemand operator version found''
    cases (show some [some (Json.array [_]), some Json.null, some (Json.bool false)] = _ from found)
    cases same
    obtain rfl := List.mem_singleton.mp isEntry
    cases (show some [some _, some (Json.array [_])] = _ from found')
    cases same'
    obtain rfl := List.mem_singleton.mp isDemand
    cases (show some [some (Json.ofString "gt"), some _] = _ from found'')
    rintro ⟨key, same⟩
    cases same

private theorem legible_array_iff {items : List Json} :
    (Json.array items).Legible ↔ ∀ item ∈ items, item.Legible := by
  refine ⟨fun legible => ?_, .array⟩
  cases legible with
  | array each => exact each

private theorem legible_ofMembers_iff {members : List (String × Json)} :
    (ofMembers members).Legible ↔ ∀ member ∈ members, member.2.Legible := by
  refine ⟨fun legible member isMember => ?_, legible_ofMembers⟩
  cases legible with
  | object each => exact each _ (List.mem_map_of_mem isMember)

theorem readAll?_rearranged_loosely :
    readAll? ("\n " ++ (Json.array [listedLoosely, requiredLoosely]).write .compact) =
      some [.oneOf "tags" ["a"] false,
        .software {
          entries := [{ name := "b", versions := [{ relation := .gt, version := "1" }] }]
          listReference := none
          fuzzy := false }] := by
  have legible : (Json.array [listed, required]).Legible := by
    simp [listed, required, tagFirst, tagLast, legible_array_iff, legible_ofMembers_iff,
      legible_ofString]
  have legible' : (Json.array [listedLoosely, requiredLoosely]).Legible := by
    simp [listedLoosely, requiredLoosely, tagFirst, legible_array_iff, legible_ofMembers_iff,
      legible_ofString, Legible.null, Legible.bool]
  have read := read?_write .compact legible
  have read' := read?_write .compact legible'
  refine (readAll?_rearranged ?_ read read' ?_ ?_ _).mpr ⟨rfl, ?_⟩
  · rw [readAll?, read]
    decide +kernel
  · exact .cons (.inr rearranged_listed) (.cons (.inr rearranged_required) .nil)
  · obtain ⟨lexemes, lexed, -⟩ := Option.bind_eq_some_iff.mp read'
    have blank : Text.Blank "\n ".toList := List.all_eq_true.mp (by decide)
    have respaced := (Respaced.refl lexed).front Text.blank_nil blank
    rwa [List.nil_append, ← String.toList_append] at respaced
  · simp [admissible_listed, admissible_required]

/-- The number `1e+999`, which is not finite. -/
def endless : Numeral where
  negative := false
  whole := ['1']
  decimals := []
  exponent := some (false, ['9', '9', '9'])

private theorem isProper_endless : endless.IsProper where
  nonempty := by simp [endless]
  leading := by simp [endless]
  whole := List.all_eq_true.mp rfl
  decimals := List.all_eq_true.mp rfl
  exponent := by
    rintro negative digits ⟨⟩
    exact ⟨by simp, List.all_eq_true.mp rfl⟩

/-- The value of a filter with an unknown member that is no finite number. -/
def overflowing : Json :=
  .ofMembers [("filter", .ofString "a"), ("x", .number endless)]

/-- The value of a software clause with an operator around an empty object. -/
def unitary : Json :=
  .ofMembers
    [("software", .array [.ofMembers
      [("name", .ofString "b"),
        ("version", .array [.ofMembers
          [("op", .ofMembers [("gt", .ofMembers [])]), ("value", .ofString "1")]])]])]

theorem rearranged_tagFirst (tag : String) (value : Json) :
    Rearranged (tagFirst tag value) (tagLast tag value) :=
  .intro List.mem_cons_self rfl (.reordered (.swap _ _ _))

theorem rearranged_tagLast (tag : String) (value : Json) :
    Rearranged (tagLast tag value) (tagFirst tag value) :=
  .intro (List.mem_cons_of_mem _ List.mem_cons_self) rfl (.reordered (.swap _ _ _))

/-- Not every rearrangement may be made: some values are read only behind their tag, and some only
in front of it. -/
theorem readAll?_overflowing :
    (Rearranged (tagFirst "filter" overflowing) (tagLast "filter" overflowing) ∧
      readAll? ((Json.array [tagFirst "filter" overflowing]).write .compact) =
        some [.filter "a"] ∧
      readAll? ((Json.array [tagLast "filter" overflowing]).write .compact) = none) ∧
    Rearranged (tagLast "software" unitary) (tagFirst "software" unitary) ∧
      readAll? ((Json.array [tagLast "software" unitary]).write .compact) =
        some [.software {
          entries := [{ name := "b", versions := [{ relation := .gt, version := "1" }] }]
          listReference := none
          fuzzy := false }] ∧
      readAll? ((Json.array [tagFirst "software" unitary]).write .compact) = none := by
  have legible : overflowing.Legible := by
    simp [overflowing, legible_ofMembers_iff, legible_ofString, Legible.number isProper_endless]
  have legible' : unitary.Legible := by
    simp [unitary, legible_array_iff, legible_ofMembers_iff, legible_ofString]
  refine ⟨⟨rearranged_tagFirst _ _, ?_, ?_⟩, rearranged_tagLast _ _, ?_, ?_⟩
  all_goals
    rw [readAll?, read?_write]
    · decide +kernel
    · simp [tagFirst, tagLast, legible_array_iff, legible_ofMembers_iff, legible_ofString, legible,
        legible']

end Clause
end PipeQuery

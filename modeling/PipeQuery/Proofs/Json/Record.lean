import Mathlib.Data.List.Perm.Basic
import PipeQuery.Json.Record

/-!
# Records that say the same

The members of a record may stand in any order, members without meaning to the record may be added,
defaults may be written or left out, and a value may be exchanged for one that says the same.
Nothing that is read from the record depends on it (`Json.bind_member?_of_rearranged`).
-/

namespace PipeQuery
namespace Json

/-- Members of a record of these names that differ in what means nothing to its reader. -/
inductive Rearranged (names : List String) (isDefault : String → Json → Prop)
    (alike : String → Json → Json → Prop) : List (String × Json) → List (String × Json) → Prop
  /-- The members stand in another order. -/
  | reordered {members members' : List (String × Json)} (perm : members.Perm members') :
      Rearranged names isDefault alike members members'
  /-- A member is added that is none of the record. -/
  | added {members : List (String × Json)} {key : String} {value : Json} (unknown : key ∉ names) :
      Rearranged names isDefault alike members ((key, value) :: members)
  /-- A default is written out. -/
  | written {members : List (String × Json)} {key : String} {value : Json}
      (default : isDefault key value) (absent : key ∉ members.map Prod.fst) :
      Rearranged names isDefault alike members ((key, value) :: members)
  /-- A value is exchanged for one that is alike. -/
  | exchanged {members : List (String × Json)} {key : String} {value value' : Json}
      (same : alike key value value') :
      Rearranged names isDefault alike ((key, value) :: members) ((key, value') :: members)
  /-- Each of these changes may be taken back. -/
  | back {members members' : List (String × Json)}
      (forth : Rearranged names isDefault alike members members') :
      Rearranged names isDefault alike members' members
  /-- The changes may follow each other. -/
  | followed {members members' members'' : List (String × Json)}
      (first : Rearranged names isDefault alike members members')
      (second : Rearranged names isDefault alike members' members'') :
      Rearranged names isDefault alike members members''

theorem ofMembers_injective {members members' : List (String × Json)}
    (same : ofMembers members = ofMembers members') : members = members' := by
  refine List.map_injective_iff.mpr ?_ (Json.object.inj same)
  rintro ⟨key, value⟩ ⟨key', value'⟩ equal
  simpa using equal

/-! ## Members -/

theorem member?_perm {members members' : List (String × Json)} (perm : members.Perm members')
    (name : String) : member? members name = member? members' name := by
  have filtered := perm.filter (·.1 == name)
  unfold member?
  revert filtered
  generalize members.filter (·.1 == name) = found
  generalize members'.filter (·.1 == name) = found'
  intro filtered
  have lengths := filtered.length_eq
  rcases found with _ | ⟨first, _ | ⟨second, others⟩⟩
  · rw [List.nil_perm.mp filtered]
  · rw [List.singleton_perm.mp filtered]
  · rcases found' with _ | ⟨first', _ | ⟨second', others'⟩⟩
    · cases lengths
    · cases lengths
    · rfl

theorem member?_cons_of_ne {key name : String} (different : key ≠ name) (value : Json)
    (members : List (String × Json)) :
    member? ((key, value) :: members) name = member? members name := by
  simp [member?, different]

theorem filter_of_absent {members : List (String × Json)} {name : String}
    (absent : name ∉ members.map Prod.fst) : members.filter (·.1 == name) = [] := by
  rw [List.filter_eq_nil_iff]
  intro member isMember named
  exact absent (List.mem_map.mpr ⟨member, isMember, eq_of_beq named⟩)

/-- A member is found unless the key is repeated. -/
theorem member?_cons_self (name : String) (value : Json) (members : List (String × Json)) :
    member? ((name, value) :: members) name =
      if members.filter (·.1 == name) = [] then some (some value) else none := by
  simp only [member?, List.filter_cons, beq_self_eq_true, if_true]
  cases members.filter (·.1 == name) <;> rfl

/-- What is read for a name of the record does not depend on what means nothing to the reader. -/
theorem bind_member?_of_rearranged {α : Type} {names : List String}
    {isDefault : String → Json → Prop} {alike : String → Json → Json → Prop} {name : String}
    {read? : Option Json → Option α} (isName : name ∈ names)
    (idle : ∀ value, isDefault name value → read? (some value) = read? none)
    (same : ∀ value value', alike name value value' → read? (some value) = read? (some value'))
    {members members' : List (String × Json)}
    (rearranged : Rearranged names isDefault alike members members') :
    (member? members name).bind read? = (member? members' name).bind read? := by
  induction rearranged with
  | reordered perm => rw [member?_perm perm]
  | @added members key value unknown =>
      have different : key ≠ name := fun equal => unknown (equal ▸ isName)
      rw [member?_cons_of_ne different]
  | @written members key value default absent =>
      by_cases equal : key = name
      · subst equal
        have nothing := filter_of_absent absent
        rw [member?_cons_self, if_pos nothing, member?, nothing]
        exact (idle value default).symm
      · rw [member?_cons_of_ne equal]
  | @exchanged members key value value' exchanged =>
      by_cases equal : key = name
      · subst equal
        rw [member?_cons_self, member?_cons_self]
        split
        · exact same value value' exchanged
        · rfl
      · rw [member?_cons_of_ne equal, member?_cons_of_ne equal]
  | back _ induction => exact induction.symm
  | followed _ _ first second => exact first.trans second

/-! ## Records and lists -/

/-- Two objects whose members differ in what means nothing to the reader of a record. -/
def RearrangedRecord (names : List String) (isDefault : String → Json → Prop)
    (alike : String → Json → Json → Prop) (tree tree' : Json) : Prop :=
  ∃ members members', tree = .ofMembers members ∧ tree' = .ofMembers members' ∧
    Rearranged names isDefault alike members members'

/-- Two lists of the same length whose items are the same or alike. -/
def EachAlike (alike : Json → Json → Prop) (tree tree' : Json) : Prop :=
  ∃ items items', tree = .array items ∧ tree' = .array items' ∧
    List.Forall₂ (fun item item' => item = item' ∨ alike item item') items items'

theorem list?_of_eachAlike {α : Type} {read? : Json → Option α} {alike : Json → Json → Prop}
    {tree tree' : Json} (each : EachAlike alike tree tree')
    (same : ∀ {item item'}, alike item item' → read? item = read? item') :
    tree.list? read? = tree'.list? read? := by
  obtain ⟨items, items', rfl, rfl, each⟩ := each
  simp only [list?]
  induction each with
  | nil => rfl
  | cons first _ induction =>
      have equal := first.elim (congrArg read?) same
      simp [equal, induction]

end Json
end PipeQuery

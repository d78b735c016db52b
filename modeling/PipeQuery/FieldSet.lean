/-!
# Sets of field names

A set of names is a list in increasing order without repetition, so that two sets with the same
names are equal (`FieldSet.ext_mem`) and listing a set has one outcome.  Names are ordered by their
code points.
-/

namespace PipeQuery

/-- A finite set of names. -/
structure FieldSet where
  /-- The names in increasing order. -/
  names : List String
  /-- The order is strict, so no name is repeated. -/
  increasing : names.Pairwise (· < ·)
  deriving DecidableEq

namespace FieldSet

instance : Membership String FieldSet where
  mem fields name := name ∈ fields.names

instance (name : String) (fields : FieldSet) : Decidable (name ∈ fields) :=
  inferInstanceAs (Decidable (name ∈ fields.names))

/-- The set without names. -/
def empty : FieldSet :=
  { names := [], increasing := .nil }

/-- Insert a name into names in increasing order, unless it is there. -/
def insertName (name : String) : List String → List String
  | [] => [name]
  | first :: names =>
      if name < first then name :: first :: names
      else if name = first then first :: names
      else first :: insertName name names

theorem mem_insertName {name other : String} {names : List String} :
    other ∈ insertName name names ↔ other = name ∨ other ∈ names := by
  induction names with
  | nil => simp [insertName]
  | cons first names induction =>
      unfold insertName
      split
      · simp
      · split
        · next same => subst same; simp
        · simp only [List.mem_cons, induction]
          constructor
          · rintro (rfl | rfl | member) <;> simp_all
          · rintro (rfl | rfl | member) <;> simp_all

private theorem lt_of_not_lt {left right : String} (different : left ≠ right)
    (notBelow : ¬left < right) : right < left := by
  have := String.le_antisymm (a := left) (b := right)
  grind

theorem increasing_insertName {name : String} {names : List String}
    (increasing : names.Pairwise (· < ·)) : (insertName name names).Pairwise (· < ·) := by
  induction names with
  | nil => simp [insertName]
  | cons first names induction =>
      obtain ⟨firstLeast, restIncreasing⟩ := List.pairwise_cons.mp increasing
      unfold insertName
      split
      · next below =>
          refine List.pairwise_cons.mpr ⟨?_, increasing⟩
          intro other member
          rcases List.mem_cons.mp member with rfl | member
          · exact below
          · exact String.lt_trans below (firstLeast other member)
      · next notBelow =>
          split
          · exact increasing
          · next different =>
              refine List.pairwise_cons.mpr ⟨?_, induction restIncreasing⟩
              intro other member
              rcases mem_insertName.mp member with rfl | member
              · exact lt_of_not_lt different notBelow
              · exact firstLeast other member

/-- Add a name. -/
def insert (fields : FieldSet) (name : String) : FieldSet where
  names := insertName name fields.names
  increasing := increasing_insertName fields.increasing

/-- Add several names. -/
def insertAll (fields : FieldSet) (names : List String) : FieldSet :=
  names.foldl insert fields

/-- The set of the given names. -/
def ofList (names : List String) : FieldSet :=
  empty.insertAll names

@[simp]
theorem not_mem_empty (name : String) : name ∉ empty :=
  List.not_mem_nil

@[simp]
theorem mem_insert {fields : FieldSet} {name other : String} :
    other ∈ fields.insert name ↔ other = name ∨ other ∈ fields :=
  mem_insertName

@[simp]
theorem mem_insertAll {fields : FieldSet} {names : List String} {other : String} :
    other ∈ fields.insertAll names ↔ other ∈ names ∨ other ∈ fields := by
  induction names generalizing fields with
  | nil => simp [insertAll]
  | cons name names induction =>
      rw [insertAll, List.foldl_cons, ← insertAll, induction, mem_insert, List.mem_cons]
      constructor
      · rintro (member | rfl | member) <;> simp_all
      · rintro ((rfl | member) | member) <;> simp_all

@[simp]
theorem mem_ofList {names : List String} {other : String} :
    other ∈ ofList names ↔ other ∈ names := by
  simp [ofList]

private theorem names_eq_of_mem_iff {left right : List String}
    (leftIncreasing : left.Pairwise (· < ·)) (rightIncreasing : right.Pairwise (· < ·))
    (same : ∀ name, name ∈ left ↔ name ∈ right) : left = right := by
  induction left generalizing right with
  | nil =>
      cases right with
      | nil => rfl
      | cons first names => exact absurd ((same first).mpr (by simp)) (by simp)
  | cons leftFirst leftNames induction =>
      cases right with
      | nil => exact absurd ((same leftFirst).mp (by simp)) (by simp)
      | cons rightFirst rightNames =>
          obtain ⟨leftLeast, leftRest⟩ := List.pairwise_cons.mp leftIncreasing
          obtain ⟨rightLeast, rightRest⟩ := List.pairwise_cons.mp rightIncreasing
          have firstEqual : leftFirst = rightFirst := by
            rcases List.mem_cons.mp ((same leftFirst).mp (by simp)) with equal | leftMember
            · exact equal
            · rcases List.mem_cons.mp ((same rightFirst).mpr (by simp)) with equal | rightMember
              · exact equal.symm
              · exact absurd
                  (String.lt_trans (rightLeast _ leftMember) (leftLeast _ rightMember))
                  (String.lt_irrefl _)
          subst firstEqual
          congr 1
          apply induction leftRest rightRest
          intro name
          have sameName := same name
          simp only [List.mem_cons] at sameName
          constructor
          · intro member
            rcases sameName.mp (.inr member) with rfl | found
            · exact absurd (leftLeast _ member) (String.lt_irrefl _)
            · exact found
          · intro member
            rcases sameName.mpr (.inr member) with rfl | found
            · exact absurd (rightLeast _ member) (String.lt_irrefl _)
            · exact found

/-- A set is determined by its names. -/
theorem ext_mem {left right : FieldSet} (same : ∀ name, name ∈ left ↔ name ∈ right) :
    left = right := by
  have namesEqual := names_eq_of_mem_iff left.increasing right.increasing same
  cases left
  cases right
  simp_all

end FieldSet
end PipeQuery

/-!
# Finite binary64 numbers

Every finite binary64 number is an integral multiple of the least positive one, `2 ^ (-1074)`.  The
multiples that occur are those with at most fifty-three significant bits below `2 ^ 2098`.  A
number is stored as its multiple, so equality of numbers is equality of integers, there is one
zero, and every operation is an exact computation followed by one rounding to the nearest
representable multiple, ties going to the even one.
-/

namespace PipeQuery

/-- The number of units, of `2 ^ (-1074)` each, that make up the number one.  It is too large to be
unfolded in passing. -/
@[irreducible]
def unitsPerOne : Nat := Nat.pow 2 1074

/-- Divide and round to the nearest integer, a tie to the even one. -/
def roundedQuotient (numerator denominator : Nat) : Nat :=
  let quotient := numerator / denominator
  let twice := 2 * (numerator % denominator)
  if twice < denominator then quotient
  else if denominator < twice then quotient + 1
  else quotient + quotient % 2

/-- The spacing of the representable multiples around a number of units. -/
def spacing (units : Nat) : Nat := Nat.pow 2 (units.log2 - 52)

/-- A number of units that a finite binary64 number can have. -/
def IsRepresentable (units : Nat) : Prop :=
  units % spacing units = 0 ∧ units < Nat.pow 2 2098

instance (units : Nat) : Decidable (IsRepresentable units) :=
  inferInstanceAs (Decidable (_ ∧ _))

/-- A finite binary64 number. -/
structure Binary64 where
  /-- The number as a multiple of the least positive one. -/
  units : Int
  /-- The multiple is one of those that occur. -/
  representable : IsRepresentable units.natAbs
  deriving DecidableEq

namespace Binary64

/-- The number zero. -/
def zero : Binary64 where
  units := 0
  representable := by decide +kernel

/-- The number with the given units, if it is representable. -/
def ofUnits? (units : Int) : Option Binary64 :=
  if representable : IsRepresentable units.natAbs then some { units, representable } else none

/-- The quotient of two natural numbers, in units, rounded to a representable multiple or past the
largest of them. -/
def roundedUnits (numerator denominator : Nat) : Nat :=
  let step := spacing (numerator / denominator)
  roundedQuotient numerator (denominator * step) * step

/-- The number nearest to a quotient of units; none when that lies beyond the finite numbers. -/
def nearest? (numerator : Int) (denominator : Nat) : Option Binary64 :=
  ofUnits? (numerator.sign * roundedUnits numerator.natAbs denominator)

/-- The number nearest to a quotient of integers. -/
def ofRatio? (numerator : Int) (denominator : Nat) : Option Binary64 :=
  nearest? (numerator * unitsPerOne) denominator

/-- The number nearest to an integer. -/
def ofInt? (value : Int) : Option Binary64 :=
  ofRatio? value 1

/-- The product, rounded once. -/
def mul? (left right : Binary64) : Option Binary64 :=
  nearest? (left.units * right.units) unitsPerOne

/-- The quotient, rounded once. -/
def div? (left right : Binary64) : Option Binary64 :=
  if right.units = 0 then none
  else nearest? (left.units * unitsPerOne * right.units.sign) right.units.natAbs

/-- The same number with the other sign. -/
def neg (value : Binary64) : Binary64 where
  units := -value.units
  representable := by
    rw [Int.natAbs_neg]
    exact value.representable

/-- The number without its sign. -/
def abs (value : Binary64) : Binary64 where
  units := value.units.natAbs
  representable := by
    rw [Int.natAbs_natCast]
    exact value.representable

/-- The number itself, if it is an integer. -/
def toInt? (value : Binary64) : Option Int :=
  if value.units % unitsPerOne = 0 then some (value.units / unitsPerOne) else none

@[ext]
theorem ext {left right : Binary64} (equal : left.units = right.units) : left = right := by
  cases left
  cases right
  simp_all

@[simp]
theorem ofUnits?_units (value : Binary64) : ofUnits? value.units = some value := by
  simp [ofUnits?, value.representable]

end Binary64
end PipeQuery

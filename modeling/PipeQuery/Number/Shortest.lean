import PipeQuery.Number.Decimal

/-!
# The shortest decimal number that reads back

Among the decimal numbers that read back as a given binary64 number, the shortest one lies on the
coarsest grid of multiples of a power of ten that has such a number at all.  On a grid only the two
neighbours of the number can come first, the nearer one before the other.  Every binary64 number is
itself a multiple of `10 ^ (-1074)`, so the search ends there at the latest.
-/

namespace PipeQuery
namespace Binary64

/-- The least power of ten of which every binary64 number is an integral multiple. -/
def finestGrid : Int := -1074

/-- The two neighbours of a number without sign among the multiples of `10 ^ exponent`, the nearer
one first; of two equally near ones the even one comes first. -/
def gridNeighbours (value : Binary64) (exponent : Int) : List Nat :=
  let numerator := value.units.natAbs * Nat.pow 10 (-exponent).toNat
  let denominator := unitsPerOne * Nat.pow 10 exponent.toNat
  let below := numerator / denominator
  let nearest := roundedQuotient numerator denominator
  if nearest = below then [below, below + 1] else [below + 1, below]

/-- A multiple of a power of ten reads back as a number. -/
def readsBack (value : Binary64) (exponent : Int) (coefficient : Nat) : Bool :=
  Decimal.toBinary64? { negative := false, coefficient, exponent } = some value

/-- The shortest decimal number for a number without sign, searched on `fuel` grids from
`10 ^ exponent` downwards and taken from the grid below them if they have none. -/
def shortestFrom (value : Binary64) : Nat → Int → Decimal
  | 0, exponent =>
      { negative := false
        coefficient := value.units.natAbs * Nat.pow 10 (-exponent).toNat / unitsPerOne
        exponent }
  | fuel + 1, exponent =>
      match (value.gridNeighbours exponent).find? (value.readsBack exponent) with
      | some coefficient => { negative := false, coefficient, exponent }
      | none => shortestFrom value fuel (exponent - 1)

/-- The shortest decimal number that reads back as the given one; zero is `0`. -/
def shortest (value : Binary64) : Decimal :=
  if value.units = 0 then { negative := false, coefficient := 0, exponent := 0 }
  else
    let wholeDigits := (Nat.toDigits 10 (value.units.natAbs / unitsPerOne)).length
    { value.abs.shortestFrom (wholeDigits + 1074) wholeDigits with
      negative := decide (value.units < 0) }

end Binary64
end PipeQuery

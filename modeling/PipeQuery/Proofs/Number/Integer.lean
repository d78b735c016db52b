import Mathlib.Algebra.Order.Field.Power
import Mathlib.Algebra.Order.Ring.Abs
import Mathlib.Data.Rat.Cast.Order
import Mathlib.Tactic.Linarith
import PipeQuery.Proofs.Number.Numeral
import PipeQuery.Proofs.Number.Written

/-!
# Integers are not rounded

An integer of at most fifty-three bits is a binary64 number, and however it is written, that number
is found without any rounding (`Decimal.toBinary64?_of_integer`).  A bound is written as an integer
just where it is one of these (`Binary64.isWrittenInteger_iff`), and there the conversion to a
machine integer neither cuts it off nor saturates it (`Binary64.toInt64_of_integer`).
-/

namespace PipeQuery

namespace Binary64

/-- The number that a binary64 number is. -/
def toRat (value : Binary64) : ℚ :=
  value.units / unitsPerOne

/-- The least and the greatest integer of sixty-four bits with a sign. -/
def leastInteger : Int := -(2 ^ 63)

@[inherit_doc leastInteger]
def greatestInteger : Int := 2 ^ 63 - 1

/-- The conversion to an integer of sixty-four bits with a sign: what stands behind the point is cut
off, and a number out of reach becomes the nearest integer within reach. -/
def toInt64 (value : Binary64) : Int :=
  max leastInteger (min greatestInteger (value.units.tdiv unitsPerOne))

theorem unitsPerOne_pos : 0 < unitsPerOne := by
  decide +kernel

theorem toRat_eq_intCast_iff {value : Binary64} {integer : Int} :
    value.toRat = integer ↔ value.units = integer * unitsPerOne := by
  have nonzero : (unitsPerOne : ℚ) ≠ 0 := Nat.cast_ne_zero.mpr (Nat.ne_of_gt unitsPerOne_pos)
  rw [toRat, div_eq_iff nonzero]
  norm_cast

theorem toInt?_eq_some_iff {value : Binary64} {integer : Int} :
    value.toInt? = some integer ↔ value.toRat = integer := by
  refine ⟨fun isInteger => toRat_eq_intCast_iff.mpr (units_of_toInt? isInteger), fun equal => ?_⟩
  have whole := toRat_eq_intCast_iff.mp equal
  have positive : (unitsPerOne : Int) ≠ 0 := Int.natCast_ne_zero.mpr (Nat.ne_of_gt unitsPerOne_pos)
  rw [toInt?, whole, if_pos (Int.mul_emod_left integer unitsPerOne),
    Int.mul_ediv_cancel integer positive]

/-- Fifty-three bits with zeros behind them make up a binary64 number. -/
theorem isRepresentable_mul_pow {bits : Nat} (few : bits < Nat.pow 2 53) {zeros : Nat}
    (finite : zeros ≤ 2045) : IsRepresentable (bits * Nat.pow 2 zeros) := by
  have below : bits * Nat.pow 2 zeros < Nat.pow 2 (53 + zeros) := by
    calc
      bits * Nat.pow 2 zeros < Nat.pow 2 53 * Nat.pow 2 zeros :=
        Nat.mul_lt_mul_of_pos_right few (Nat.two_pow_pos zeros)
      _ = Nat.pow 2 (53 + zeros) := (Nat.pow_add 2 53 zeros).symm
  have fine : (bits * Nat.pow 2 zeros).log2 - 52 ≤ zeros := by
    by_cases nothing : bits * Nat.pow 2 zeros = 0
    · rw [nothing]
      exact Nat.zero_le zeros
    · have := (Nat.log2_lt nothing).mpr below
      omega
  have grows : ∀ limit, 53 + zeros ≤ limit → Nat.pow 2 (53 + zeros) ≤ Nat.pow 2 limit :=
    fun _ => Nat.pow_le_pow_right Nat.two_pos
  refine ⟨Nat.mod_eq_zero_of_dvd ?_, Nat.lt_of_lt_of_le below (grows 2098 (by omega))⟩
  exact Nat.dvd_mul_left_of_dvd (Nat.pow_dvd_pow 2 fine) bits

/-- An integer of at most fifty-three bits is a binary64 number. -/
theorem isRepresentable_of_le {integer : Nat} (small : integer ≤ greatestWrittenInteger) :
    IsRepresentable (integer * unitsPerOne) := by
  have below : greatestWrittenInteger < Nat.pow 2 53 := by decide
  unfold unitsPerOne
  exact isRepresentable_mul_pow (Nat.lt_of_le_of_lt small below) (by decide)

/-- An integer of at most fifty-three bits. -/
def ofSmall (integer : Int) (small : integer.natAbs ≤ greatestWrittenInteger) : Binary64 where
  units := integer * unitsPerOne
  representable := by
    rw [Int.natAbs_mul, Int.natAbs_natCast]
    exact isRepresentable_of_le small

theorem toRat_ofSmall (integer : Int) (small : integer.natAbs ≤ greatestWrittenInteger) :
    (ofSmall integer small).toRat = integer :=
  toRat_eq_intCast_iff.mpr rfl

end Binary64

/-! ## Reading integers -/

namespace Decimal

variable {decimal : Decimal} {integer : Int}

theorem abs_signed (decimal : Decimal) : |(decimal.signed : ℚ)| = decimal.coefficient := by
  rw [signed]
  split <;> simp

/-- A coefficient lies between the powers of ten that its width gives. -/
theorem width_bounds (nonzero : decimal.coefficient ≠ 0) :
    10 ^ (decimal.width - 1) ≤ decimal.coefficient ∧ decimal.coefficient < 10 ^ decimal.width := by
  have fits : ∀ places, 0 < places → (decimal.width ≤ places ↔ decimal.coefficient < 10 ^ places) :=
    fun places => Nat.length_toDigits_le_iff (by decide)
  have positive : 0 < decimal.width := Nat.length_toDigits_pos
  refine ⟨?_, (fits _ positive).mp (Nat.le_refl _)⟩
  by_cases single : decimal.width - 1 = 0
  · rw [single]
    exact Nat.pos_of_ne_zero nonzero
  · refine Nat.not_lt.mp fun below => ?_
    have := (fits _ (Nat.pos_of_ne_zero single)).mpr below
    omega

/-- The size of an integer, from its digits and its power of ten. -/
theorem natAbs_of_integer (value : decimal.toRat = integer) :
    (integer.natAbs : ℚ) = decimal.coefficient * 10 ^ decimal.exponent := by
  have power : (0 : ℚ) < 10 ^ decimal.exponent := zpow_pos (by norm_num) _
  rw [Nat.cast_natAbs, Int.cast_abs, ← value, toRat, abs_mul, abs_signed, abs_of_pos power]

/-- The digits and the power of ten of an integer other than zero stay small. -/
theorem width_of_integer (value : decimal.toRat = integer) (nonzero : decimal.coefficient ≠ 0)
    (small : integer.natAbs ≤ greatestWrittenInteger) :
    0 < decimal.exponent + decimal.width ∧ decimal.exponent + decimal.width ≤ 16 := by
  have ten : (1 : ℚ) < 10 := by norm_num
  have power : (0 : ℚ) < 10 ^ decimal.exponent := zpow_pos (by norm_num) _
  have size := natAbs_of_integer value
  obtain ⟨leads, fits⟩ := width_bounds nonzero
  have positive : 0 < decimal.width := Nat.length_toDigits_pos
  constructor
  · have least : (1 : ℚ) ≤ integer.natAbs := by
      have something : (0 : ℚ) < integer.natAbs := by
        rw [size]
        exact mul_pos (Nat.cast_pos.mpr (Nat.pos_of_ne_zero nonzero)) power
      exact Nat.one_le_cast.mpr (Nat.cast_pos.mp something)
    apply (zpow_lt_zpow_iff_right₀ ten).mp
    calc
      (10 : ℚ) ^ (0 : Int) ≤ integer.natAbs := by simpa using least
      _ = decimal.coefficient * 10 ^ decimal.exponent := size
      _ < 10 ^ decimal.width * 10 ^ decimal.exponent :=
        mul_lt_mul_of_pos_right (by exact_mod_cast fits) power
      _ = 10 ^ (decimal.exponent + decimal.width) := by
        rw [zpow_add₀ (by norm_num), zpow_natCast, mul_comm]
  · have below : decimal.exponent + (decimal.width - 1 : Nat) < 16 := by
      apply (zpow_lt_zpow_iff_right₀ ten).mp
      calc
        (10 : ℚ) ^ (decimal.exponent + (decimal.width - 1 : Nat)) =
            10 ^ (decimal.width - 1) * 10 ^ decimal.exponent := by
          rw [zpow_add₀ (by norm_num), zpow_natCast, mul_comm]
        _ ≤ decimal.coefficient * 10 ^ decimal.exponent :=
          mul_le_mul_of_nonneg_right (by exact_mod_cast leads) power.le
        _ = integer.natAbs := size.symm
        _ < 10 ^ (16 : Int) := by
          have := Nat.lt_of_le_of_lt small (by decide : greatestWrittenInteger < 10 ^ 16)
          exact_mod_cast this
    omega

/-- The coefficient of an integer, where it makes up for the decimals. -/
theorem signed_of_integer (value : decimal.toRat = integer) (decimals : decimal.exponent < 0) :
    decimal.signed = integer * (Nat.pow 10 (-decimal.exponent).toNat : Nat) := by
  have power : (10 : ℚ) ^ decimal.exponent * 10 ^ (-decimal.exponent).toNat = 1 := by
    rw [← zpow_natCast, ← zpow_add₀ (by norm_num), Int.toNat_of_nonneg (by omega), add_neg_cancel,
      zpow_zero]
  have scaled : (decimal.signed : ℚ) = integer * 10 ^ (-decimal.exponent).toNat := by
    rw [← value, toRat, mul_assoc, power, mul_one]
  exact_mod_cast scaled

/-- An integer of at most fifty-three bits is found without rounding. -/
theorem toBinary64?_of_integer (value : decimal.toRat = integer)
    (small : integer.natAbs ≤ greatestWrittenInteger) :
    decimal.toBinary64? = some (.ofSmall integer small) := by
  by_cases nothing : decimal.coefficient = 0
  · have zero : integer = 0 := by
      have size := natAbs_of_integer value
      simpa [nothing] using size
    subst zero
    rw [toBinary64?, if_pos nothing]
    exact congrArg some (Binary64.ext (Int.zero_mul _).symm)
  · obtain ⟨least, greatest⟩ := width_of_integer value nothing small
    rw [toBinary64?, if_neg nothing, if_neg (by omega), if_neg (by omega)]
    split
    · next whole =>
        have product : decimal.signed * (Nat.pow 10 decimal.exponent.toNat : Nat) = integer := by
          have power : (10 : ℚ) ^ decimal.exponent = 10 ^ decimal.exponent.toNat := by
            rw [← zpow_natCast, Int.toNat_of_nonneg whole]
          have scaled := value
          rw [toRat, power] at scaled
          exact_mod_cast scaled
        rw [product]
        exact Binary64.ofInt?_of_units rfl
    · next decimals =>
        have tens : 0 < Nat.pow 10 (-decimal.exponent).toNat := Nat.pow_pos (by decide)
        have exact := Binary64.nearest?_mul (.ofSmall integer small) tens
        rw [Binary64.ofRatio?, signed_of_integer value (by omega), Int.mul_right_comm]
        exact exact

end Decimal

namespace WrittenNumber

/-- Every spelling of an integer of at most fifty-three bits is the same number, the integer. -/
theorem ofWord?_text {number : WrittenNumber} (proper : number.IsProper) {integer : Int}
    (value : number.value = integer) (small : integer.natAbs ≤ greatestWrittenInteger) :
    Binary64.ofWord? (String.ofList number.text) = some (.ofSmall integer small) := by
  rw [← number.toRat_decimal] at value
  rw [Binary64.ofWord?, String.toList_ofList, read?_text proper, Option.bind_some,
    Decimal.toBinary64?_of_integer value small]

end WrittenNumber

/-! ## Writing integers -/

namespace Numeral

/-- The numeral has digits only, neither a point nor an exponent. -/
def IsPlain (numeral : Numeral) : Prop :=
  numeral.decimals = [] ∧ numeral.exponent = none

/-- The digits of an integer are those it is shown with, without a sign for zero. -/
theorem text_ofInt (integer : Int) : (ofInt integer).text = (toString integer).toList := by
  cases integer with
  | ofNat size =>
      have shown : toString (Int.ofNat size) = size.repr := rfl
      have unsigned : ¬((size : Int) < 0) := by omega
      rw [shown]
      simp [ofInt, text, unsigned, Nat.repr_eq_ofList_toDigits]
  | negSucc size =>
      have shown : toString (Int.negSucc size) = "-" ++ (size + 1).repr := rfl
      rw [shown]
      simp [ofInt, text, Nat.repr_eq_ofList_toDigits]

/-- The numeral of a decimal number always has a point or an exponent. -/
theorem not_isPlain_numeral (layout : Numeral.Layout) (decimal : Decimal) :
    ¬(layout.numeral decimal).IsPlain := by
  have digits : 0 < (Nat.toDigits 10 decimal.coefficient).length := Nat.length_toDigits_pos
  simp only [Layout.numeral]
  split
  · split
    · exact fun plain => List.cons_ne_nil _ _ plain.1
    · split
      · -- Digits are left over behind the point, as the last one stands for a fraction.
        intro plain
        have := List.drop_eq_nil_iff.mp plain.1
        omega
      · intro plain
        have := List.append_eq_nil_iff.mp plain.1
        simp_all
  · exact fun plain => Option.some_ne_none _ plain.2

end Numeral

namespace Binary64

variable {value : Binary64} {integer : Int}

theorem isWrittenInteger_iff :
    value.IsWrittenInteger ↔
      ∃ integer : Int, value.toRat = integer ∧ integer.natAbs ≤ greatestWrittenInteger := by
  simp only [IsWrittenInteger, toInt?_eq_some_iff]

/-- The conversion to a machine integer changes no integer that is written as one. -/
theorem toInt64_of_integer (isInteger : value.toRat = integer)
    (small : integer.natAbs ≤ greatestWrittenInteger) : value.toInt64 = integer := by
  have positive : (unitsPerOne : Int) ≠ 0 := Int.natCast_ne_zero.mpr (Nat.ne_of_gt unitsPerOne_pos)
  have greatest : greatestWrittenInteger = 9007199254740991 := by decide
  rw [toInt64, toRat_eq_intCast_iff.mp isInteger, Int.mul_tdiv_cancel integer positive]
  simp only [leastInteger, greatestInteger]
  omega

end Binary64

end PipeQuery

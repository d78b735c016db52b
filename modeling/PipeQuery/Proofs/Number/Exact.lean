import PipeQuery.Number.Decimal
import PipeQuery.Proofs.Token.Spelling

/-!
# Every number has an exact spelling

A finite binary64 number is an integral multiple of `2 ^ (-1074)`, so it has a decimal expansion of
at most 1074 places.  Written out in full it is read back without any rounding
(`Binary64.exists_spelling`).
-/

namespace PipeQuery

/-! ## Exact quotients are not rounded -/

theorem roundedQuotient_mul (quotient : Nat) {denominator : Nat} (positive : 0 < denominator) :
    roundedQuotient (quotient * denominator) denominator = quotient := by
  simp [roundedQuotient, Nat.mul_div_cancel _ positive, positive]

namespace Binary64

theorem roundedUnits_mul {units denominator : Nat} (representable : IsRepresentable units)
    (positive : 0 < denominator) :
    roundedUnits (units * denominator) denominator = units := by
  have wide : 0 < denominator * spacing units :=
    Nat.mul_pos positive (Nat.pow_pos (Nat.zero_lt_two))
  have steps : units / spacing units * spacing units = units :=
    Nat.div_mul_cancel (Nat.dvd_of_mod_eq_zero representable.1)
  have split : units * denominator = units / spacing units * (denominator * spacing units) := by
    calc
      units * denominator = units / spacing units * spacing units * denominator := by rw [steps]
      _ = units / spacing units * (denominator * spacing units) := by
        rw [Nat.mul_assoc, Nat.mul_comm (spacing units)]
  have rounded := roundedQuotient_mul (units / spacing units) wide
  rw [← split] at rounded
  simp only [roundedUnits, Nat.mul_div_cancel _ positive, rounded, steps]

/-- A quotient that is a number already is read as that number. -/
theorem nearest?_mul (value : Binary64) {denominator : Nat} (positive : 0 < denominator) :
    nearest? (value.units * denominator) denominator = some value := by
  have sign : (value.units * denominator).sign = value.units.sign := by
    rw [Int.sign_mul, Int.sign_natCast_of_ne_zero (Nat.ne_of_gt positive), Int.mul_one]
  have magnitude : (value.units * denominator).natAbs = value.units.natAbs * denominator := by
    rw [Int.natAbs_mul, Int.natAbs_natCast]
  rw [nearest?, sign, magnitude, roundedUnits_mul value.representable positive,
    Int.sign_mul_natAbs, ofUnits?_units]

end Binary64

/-! ## Spelling a number in full -/

namespace Decimal

theorem sign_of_isDigit {c : Char} (isDigit : c.isDigit = true) (rest : List Char) :
    sign (c :: rest) = (false, c :: rest) := by
  unfold sign
  split
  · next same => cases same; cases isDigit
  · next same => cases same; cases isDigit
  · rfl

/-- A run of digits ends in front of everything else. -/
theorem digits_append_of_stop {run rest : List Char} (isRun : ∀ c ∈ run, c.isDigit = true)
    (stops : ∀ c ∈ rest.head?, c.isDigit = false) : digits (run ++ rest) = (run, rest) := by
  rw [digits, Text.takeWhile_append_of_stop isRun stops, Text.dropWhile_append_of_stop isRun stops]

/-- An integer with the exponent that puts 1074 of its digits behind the point. -/
def scaled (negative : Bool) (coefficient : Nat) : String :=
  String.ofList ((if negative then ['-'] else []) ++
    (Nat.toDigits 10 coefficient ++ ['e', '-', '1', '0', '7', '4']))

theorem read?_scaled (negative : Bool) (coefficient : Nat) :
    read? (scaled negative coefficient).toList =
      some { negative, coefficient, exponent := -1074 } := by
  have isRun : ∀ c ∈ Nat.toDigits 10 coefficient, c.isDigit = true :=
    fun c member => Nat.isDigit_of_mem_toDigits (by decide) (by decide) member
  have run : digits (Nat.toDigits 10 coefficient ++ ['e', '-', '1', '0', '7', '4']) =
      (Nat.toDigits 10 coefficient, ['e', '-', '1', '0', '7', '4']) :=
    digits_append_of_stop isRun (by simp)
  obtain ⟨first, others, split⟩ :=
    List.exists_cons_of_ne_nil (Nat.toDigits_ne_nil (n := coefficient) (b := 10))
  have signed : sign (scaled negative coefficient).toList =
      (negative, Nat.toDigits 10 coefficient ++ ['e', '-', '1', '0', '7', '4']) := by
    rw [scaled, String.toList_ofList]
    cases negative with
    | true => rfl
    | false =>
        rw [split]
        exact sign_of_isDigit (isRun first (by rw [split]; exact List.mem_cons_self)) _
  have exponent : exponent? ['e', '-', '1', '0', '7', '4'] = some (-1074) := by decide +kernel
  have noFraction : fraction ['e', '-', '1', '0', '7', '4'] =
      ([], ['e', '-', '1', '0', '7', '4']) := rfl
  have nonempty : (Nat.toDigits 10 coefficient).isEmpty = false := by
    rw [split]
    rfl
  have valued : digitsValue (Nat.toDigits 10 coefficient) = coefficient :=
    Nat.ofDigitChars_toDigits (by decide) (by decide)
  simp only [read?, signed, run, noFraction, nonempty, Bool.false_and, Bool.false_eq_true, if_false,
    exponent, Option.map_some, List.append_nil, valued, List.length_nil]
  rfl

theorem isWord_of_isDigit {c : Char} (isDigit : c.isDigit = true) : Text.isWord c = true := by
  refine Text.isWord_iff.mpr ⟨?_, ?_, ?_, ?_⟩
  · refine Bool.eq_false_iff.mpr fun blank => ?_
    rcases Text.isBlank_iff.mp blank with rfl | rfl | rfl | rfl <;> cases isDigit
  · refine Bool.eq_false_iff.mpr fun mark => ?_
    rcases Text.isPunctuation_iff.mp mark with rfl | rfl | rfl | rfl <;> cases isDigit
  · refine Bool.eq_false_iff.mpr fun comparison => ?_
    rcases Text.isComparison_iff.mp comparison with rfl | rfl | rfl | rfl <;> cases isDigit
  · obtain ⟨least, greatest⟩ := Char.isDigit_iff_toNat.mp isDigit
    have zero : '0'.toNat = 48 := rfl
    have nine : '9'.toNat = 57 := rfl
    simp only [Text.isControl, Bool.or_eq_false_iff, Bool.and_eq_false_iff, decide_eq_false_iff_not]
    omega

theorem isWord_scaled (negative : Bool) (coefficient : Nat) :
    Text.IsWord (scaled negative coefficient) := by
  have isRun : ∀ c ∈ Nat.toDigits 10 coefficient, c.isDigit = true :=
    fun c member => Nat.isDigit_of_mem_toDigits (by decide) (by decide) member
  have allowed : ∀ c ∈ (scaled negative coefficient).toList,
      c.isDigit = true ∨ c = '-' ∨ c = 'e' := by
    intro c member
    rw [scaled, String.toList_ofList] at member
    rcases List.mem_append.mp member with minus | member
    · cases negative <;> simp_all
    · rcases List.mem_append.mp member with digit | exponent
      · exact .inl (isRun c digit)
      · simp only [List.mem_cons, List.not_mem_nil, or_false] at exponent
        rcases exponent with rfl | rfl | rfl | rfl | rfl | rfl <;> decide
  have characters : ∀ c ∈ (scaled negative coefficient).toList, Text.isWord c = true := by
    intro c member
    rcases allowed c member with isDigit | rfl | rfl
    · exact isWord_of_isDigit isDigit
    · decide
    · decide
  refine ⟨?_, ?_, characters⟩
  · simp [scaled]
  · intro quoted
    obtain ⟨others, split⟩ := List.head?_eq_some_iff.mp quoted
    have first := allowed '"' (by rw [split]; exact List.mem_cons_self)
    revert first
    decide

end Decimal

namespace Binary64

/-- The digits of a number written out in full. -/
def exactCoefficient (value : Binary64) : Nat :=
  value.units.natAbs * Nat.pow 5 1074

/-- A number written out in full. -/
def exactDecimal (value : Binary64) : Decimal :=
  { negative := value.units < 0, coefficient := value.exactCoefficient, exponent := -1074 }

theorem signed_exactDecimal (value : Binary64) :
    value.exactDecimal.signed * unitsPerOne = value.units * (Nat.pow 10 1074 : Nat) := by
  have tens : Nat.pow 5 1074 * unitsPerOne = Nat.pow 10 1074 := by decide +kernel
  have signed : value.exactDecimal.signed = value.units * (Nat.pow 5 1074 : Nat) := by
    simp only [exactDecimal, Decimal.signed, exactCoefficient, decide_eq_true_eq, Int.natCast_mul]
    split
    · next negative =>
        rw [Int.ofNat_natAbs_of_nonpos (Int.le_of_lt negative), Int.neg_mul, Int.neg_neg]
    · next positive => rw [Int.natAbs_of_nonneg (Int.not_lt.mp positive)]
  rw [signed, Int.mul_assoc, ← Int.natCast_mul, tens]

theorem width_exactDecimal {value : Binary64} (nonzero : value.units ≠ 0) :
    750 < value.exactDecimal.width ∧ value.exactDecimal.width ≤ 1383 := by
  have positive : 0 < value.units.natAbs := Int.natAbs_pos.mpr nonzero
  have below : value.units.natAbs < Nat.pow 2 2098 := value.representable.2
  have least : 10 ^ 750 ≤ Nat.pow 5 1074 := by decide +kernel
  have greatest : Nat.pow 2 2098 * Nat.pow 5 1074 ≤ 10 ^ 1383 := by decide +kernel
  have fives : 0 < Nat.pow 5 1074 := by decide +kernel
  constructor
  · refine Nat.lt_of_not_le fun narrow => ?_
    have small := (Nat.length_toDigits_le_iff (by decide) (by decide)).mp narrow
    have large : Nat.pow 5 1074 ≤ value.exactCoefficient := Nat.le_mul_of_pos_left _ positive
    exact absurd small (Nat.not_lt.mpr (Nat.le_trans least large))
  · apply (Nat.length_toDigits_le_iff (by decide) (by decide)).mpr
    exact Nat.lt_of_lt_of_le (Nat.mul_lt_mul_of_pos_right below fives) greatest

/-- Nothing is rounded when a number written out in full is read. -/
theorem toBinary64?_exactDecimal (value : Binary64) :
    value.exactDecimal.toBinary64? = some value := by
  by_cases zero : value.units = 0
  · have nothing : value.exactDecimal.coefficient = 0 :=
      Nat.mul_eq_zero.mpr (.inl (Int.natAbs_eq_zero.mpr zero))
    rw [Decimal.toBinary64?, if_pos nothing]
    exact congrArg some (ext zero.symm)
  · have something : value.exactCoefficient ≠ 0 := by
      have fives : Nat.pow 5 1074 ≠ 0 := by decide +kernel
      rw [exactCoefficient]
      exact Nat.mul_ne_zero (Int.natAbs_ne_zero.mpr zero) fives
    have exponent : value.exactDecimal.exponent = -1074 := rfl
    obtain ⟨wide, narrow⟩ := width_exactDecimal zero
    rw [Decimal.toBinary64?, if_neg (by exact something), exponent, if_neg (by omega),
      if_neg (by omega), if_neg (by decide)]
    have tens : 0 < Nat.pow 10 1074 := by decide +kernel
    have exact := nearest?_mul value tens
    have places : (-(-1074 : Int)).toNat = 1074 := rfl
    rw [← signed_exactDecimal] at exact
    rw [places, ofRatio?, exact]

/-- Every number is spelled by some word. -/
theorem exists_spelling (value : Binary64) :
    ∃ word, Text.IsWord word ∧ ofWord? word = some value := by
  have read : Decimal.read? (Decimal.scaled (value.units < 0) value.exactCoefficient).toList =
      some value.exactDecimal :=
    Decimal.read?_scaled (value.units < 0) value.exactCoefficient
  refine ⟨_, Decimal.isWord_scaled (value.units < 0) value.exactCoefficient, ?_⟩
  rw [ofWord?, read, Option.bind_some, toBinary64?_exactDecimal]

end Binary64
end PipeQuery

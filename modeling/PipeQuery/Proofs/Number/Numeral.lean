import PipeQuery.Clause.Wire
import PipeQuery.Proofs.Number.Exact

/-!
# Numerals are read as they are written

A numeral that is written without a needless zero in front is read back in front of everything that
does not prolong it (`Numeral.read?_text_append`).  All numerals of bounds are of this sort, and one
that is written as an integer stands for its number without any rounding
(`toBinary64?_boundNumeral`).
-/

namespace PipeQuery

/-! ## Runs of digits -/

namespace Decimal

theorem someDigits?_append {run rest : List Char} (nonempty : run ≠ [])
    (isRun : ∀ c ∈ run, c.isDigit = true) (stops : ∀ c ∈ rest.head?, c.isDigit = false) :
    someDigits? (run ++ rest) = some (run, rest) := by
  simp [someDigits?, digits_append_of_stop isRun stops, nonempty]

/-- The digits of a number do not start with a zero, unless the number is zero. -/
theorem head?_toDigits_ne_zero {n : Nat} (nonzero : n ≠ 0) :
    (Nat.toDigits 10 n).head? ≠ some '0' := by
  induction n using Nat.strongRecOn with
  | ind n induction =>
      by_cases single : n < 10
      · rw [Nat.toDigits_of_lt_base single]
        have decided : ∀ digit < 10, digit ≠ 0 → [Nat.digitChar digit].head? ≠ some '0' := by
          decide
        exact decided n single nonzero
      · have shorter := induction (n / 10) (by omega) (by omega)
        obtain ⟨first, others, split⟩ :=
          List.exists_cons_of_ne_nil (Nat.toDigits_ne_nil (n := n / 10) (b := 10))
        rw [Nat.toDigits_of_base_le (by decide) (Nat.not_lt.mp single)]
        rw [split] at shorter ⊢
        exact shorter

end Decimal

namespace Numeral

/-! ## Proper numerals -/

/-- A numeral whose digits stand as a reader expects them. -/
structure IsProper (numeral : Numeral) : Prop where
  /-- There are digits in front of the point. -/
  nonempty : numeral.whole ≠ []
  /-- A zero in front of the point stands alone. -/
  leading : numeral.whole.head? = some '0' → numeral.whole = ['0']
  /-- In front of the point there are digits only. -/
  whole : ∀ c ∈ numeral.whole, c.isDigit = true
  /-- Behind the point there are digits only. -/
  decimals : ∀ c ∈ numeral.decimals, c.isDigit = true
  /-- An exponent has digits, and nothing else. -/
  exponent : ∀ negative digits, numeral.exponent = some (negative, digits) →
    digits ≠ [] ∧ ∀ c ∈ digits, c.isDigit = true

/-- A text that does not prolong a numeral in front of it. -/
def Stops (text : List Char) : Prop :=
  ∀ c ∈ text.head?, c.isDigit = false ∧ c ≠ '.' ∧ c ≠ 'e' ∧ c ≠ 'E'

theorem stops_nil : Stops [] := by
  simp [Stops]

theorem stops_cons {c : Char} (notDigit : c.isDigit = false) (notPoint : c ≠ '.')
    (notLetter : c ≠ 'e' ∧ c ≠ 'E') (text : List Char) : Stops (c :: text) := by
  simpa [Stops] using ⟨notDigit, notPoint, notLetter⟩

/-- The characters of an exponent. -/
private def exponentText : Option (Bool × List Char) → List Char
  | some (negative, digits) => 'e' :: (if negative then '-' else '+') :: digits
  | none => []

/-- The characters of a point and the digits behind it. -/
private def decimalText (decimals : List Char) : List Char :=
  if decimals.isEmpty then [] else '.' :: decimals

private theorem text_eq (numeral : Numeral) :
    numeral.text = (if numeral.negative then ['-'] else []) ++
      (numeral.whole ++ (decimalText numeral.decimals ++ exponentText numeral.exponent)) := by
  obtain ⟨negative, whole, decimals, exponent⟩ := numeral
  cases exponent <;> simp [text, decimalText, exponentText]

private theorem exponentDigits?_append {numeral : Numeral} (proper : numeral.IsProper)
    {rest : List Char} (stops : Stops rest) :
    exponentDigits? (exponentText numeral.exponent ++ rest) = some (numeral.exponent, rest) := by
  cases written : numeral.exponent with
  | none =>
      cases rest with
      | nil => rfl
      | cons c rest =>
          obtain ⟨-, -, small, capital⟩ := stops c rfl
          simp [exponentText, exponentDigits?, small, capital]
  | some exponent =>
      obtain ⟨negative, digits⟩ := exponent
      obtain ⟨nonempty, isRun⟩ := proper.exponent negative digits written
      have sign : Decimal.sign ((if negative then '-' else '+') :: (digits ++ rest)) =
          (negative, digits ++ rest) := by
        cases negative <;> rfl
      have run := Decimal.someDigits?_append nonempty isRun fun c first => (stops c first).1
      simp [exponentText, exponentDigits?, sign, run]

/-- Behind the whole digits and the decimals there is no further digit. -/
private theorem head?_exponentText {exponent : Option (Bool × List Char)} {rest : List Char}
    (stops : Stops rest) :
    ∀ c ∈ (exponentText exponent ++ rest).head?, c.isDigit = false ∧ c ≠ '.' := by
  intro c first
  cases exponent with
  | none =>
      obtain ⟨notDigit, notPoint, -⟩ := stops c first
      exact ⟨notDigit, notPoint⟩
  | some exponent =>
      obtain rfl : 'e' = c := by simpa [exponentText] using first
      decide

private theorem decimalDigits?_append {numeral : Numeral} (proper : numeral.IsProper)
    {rest : List Char} (stops : ∀ c ∈ rest.head?, c.isDigit = false ∧ c ≠ '.') :
    decimalDigits? (decimalText numeral.decimals ++ rest) = some (numeral.decimals, rest) := by
  cases written : numeral.decimals with
  | nil =>
      have noPoint : ∀ others, rest ≠ '.' :: others := by
        rintro others rfl
        exact (stops '.' rfl).2 rfl
      simp only [decimalText, List.isEmpty_nil, if_true, List.nil_append]
      unfold decimalDigits?
      split
      · next others => exact absurd rfl (noPoint others)
      · rfl
  | cons digit digits =>
      have isRun : ∀ c ∈ digit :: digits, c.isDigit = true := by
        rw [← written]
        exact proper.decimals
      exact Decimal.someDigits?_append (List.cons_ne_nil _ _) isRun fun c first =>
        (stops c first).1

private theorem wholeDigits?_append {numeral : Numeral} (proper : numeral.IsProper)
    {rest : List Char} (stops : ∀ c ∈ rest.head?, c.isDigit = false) :
    wholeDigits? (numeral.whole ++ rest) = some (numeral.whole, rest) := by
  by_cases zero : numeral.whole.head? = some '0'
  · rw [proper.leading zero]
    rfl
  · obtain ⟨first, others, split⟩ := List.exists_cons_of_ne_nil proper.nonempty
    have run := Decimal.someDigits?_append proper.nonempty proper.whole stops
    rw [split] at zero run ⊢
    rw [List.cons_append] at run ⊢
    unfold wholeDigits?
    split
    · next same =>
        cases same
        exact absurd rfl zero
    · exact run

private theorem read?_of_isDigit {first : Char} (isDigit : first.isDigit = true)
    (rest : List Char) : read? (first :: rest) = readUnsigned? false (first :: rest) := by
  unfold read?
  split
  · next same =>
      cases same
      cases isDigit
  · rfl

/-- A proper numeral is read back in front of every text that does not prolong it. -/
theorem read?_text_append {numeral : Numeral} (proper : numeral.IsProper) {rest : List Char}
    (stops : Stops rest) : read? (numeral.text ++ rest) = some (numeral, rest) := by
  have last := exponentDigits?_append proper stops
  have behind : ∀ c ∈ (exponentText numeral.exponent ++ rest).head?,
      c.isDigit = false ∧ c ≠ '.' := head?_exponentText stops
  have middle := decimalDigits?_append proper behind
  have apart : ∀ c ∈ (decimalText numeral.decimals ++
      (exponentText numeral.exponent ++ rest)).head?, c.isDigit = false := by
    intro c first
    cases written : numeral.decimals with
    | nil =>
        rw [written] at first
        exact (behind c first).1
    | cons digit digits =>
        obtain rfl : '.' = c := by simpa [written, decimalText] using first
        decide
  have front := wholeDigits?_append proper apart
  have unsigned : ∀ negative, readUnsigned? negative (numeral.whole ++
      (decimalText numeral.decimals ++ (exponentText numeral.exponent ++ rest))) =
        some ({ numeral with negative }, rest) := by
    intro negative
    simp [readUnsigned?, front, middle, last]
  have signed : read? (numeral.text ++ rest) = readUnsigned? numeral.negative (numeral.whole ++
      (decimalText numeral.decimals ++ (exponentText numeral.exponent ++ rest))) := by
    rw [text_eq]
    cases numeral.negative with
    | true => simp [read?]
    | false =>
        obtain ⟨first, others, split⟩ := List.exists_cons_of_ne_nil proper.nonempty
        have isDigit := proper.whole first (by rw [split]; exact List.mem_cons_self)
        simp [split, read?_of_isDigit isDigit]
  rw [signed, unsigned]

/-- A numeral starts with a digit or a minus sign. -/
theorem IsProper.exists_text {numeral : Numeral} (proper : numeral.IsProper) :
    ∃ first others, numeral.text = first :: others ∧ (first.isDigit = true ∨ first = '-') := by
  obtain ⟨first, others, split⟩ := List.exists_cons_of_ne_nil proper.nonempty
  have isDigit := proper.whole first (by rw [split]; exact List.mem_cons_self)
  rw [text_eq, split]
  cases numeral.negative with
  | true => exact ⟨'-', _, rfl, .inr rfl⟩
  | false => exact ⟨first, _, rfl, .inl isDigit⟩

/-! ## The numerals of bounds are proper -/

private theorem isDigit_of_mem_toDigits {n : Nat} :
    ∀ c ∈ Nat.toDigits 10 n, c.isDigit = true :=
  fun _ member => Nat.isDigit_of_mem_toDigits (by decide) (by decide) member

theorem isProper_ofInt (value : Int) : (ofInt value).IsProper where
  nonempty := Nat.toDigits_ne_nil
  leading starts := by
    have zero : value.natAbs = 0 :=
      Decidable.not_not.mp fun nonzero => Decimal.head?_toDigits_ne_zero nonzero starts
    simp only [ofInt, zero]
    rfl
  whole := isDigit_of_mem_toDigits
  decimals _ member := nomatch member
  exponent _ _ written := nomatch written

private theorem isDigit_of_mem_replicate {count : Nat} :
    ∀ c ∈ List.replicate count '0', c.isDigit = true := by
  intro c member
  obtain rfl := List.eq_of_mem_replicate member
  rfl

private theorem isDigit_of_mem_zero : ∀ c ∈ ['0'], c.isDigit = true :=
  List.forall_mem_singleton.mpr rfl

theorem isProper_numeral (layout : Layout) {decimal : Decimal}
    (nonzero : decimal.coefficient ≠ 0) : (layout.numeral decimal).IsProper := by
  have isRun := isDigit_of_mem_toDigits (n := decimal.coefficient)
  have noZero := Decimal.head?_toDigits_ne_zero nonzero
  obtain ⟨first, others, split⟩ :=
    List.exists_cons_of_ne_nil (Nat.toDigits_ne_nil (n := decimal.coefficient) (b := 10))
  rw [split] at noZero isRun
  have isDigit := isRun first List.mem_cons_self
  simp only [Layout.numeral, split]
  split
  · split
    · -- All digits stand in front of the point.
      refine ⟨by simp, fun starts => absurd starts noZero, ?_, isDigit_of_mem_zero, nofun⟩
      intro c member
      rcases List.mem_append.mp member with digit | zero
      · exact isRun c digit
      · exact isDigit_of_mem_replicate c zero
    · split
      · -- The point stands among the digits.
        refine ⟨by simp, fun starts => absurd starts noZero, ?_, ?_, nofun⟩
        · exact fun c member => isRun c (List.mem_of_mem_take member)
        · exact fun c member => isRun c (List.mem_of_mem_drop member)
      · -- The point stands in front of the digits.
        refine ⟨by simp, fun _ => rfl, isDigit_of_mem_zero, ?_, nofun⟩
        intro c member
        rcases List.mem_append.mp member with zero | digit
        · exact isDigit_of_mem_replicate c zero
        · exact isRun c digit
  · -- The point stands behind the first digit, and an exponent follows.
    refine ⟨by simp, fun starts => absurd starts noZero, ?_, ?_, ?_⟩
    · exact fun c member => isRun c (List.mem_of_mem_take member)
    · exact fun c member => isRun c (List.mem_of_mem_drop member)
    · rintro negative digits ⟨⟩
      exact ⟨Nat.toDigits_ne_nil, isDigit_of_mem_toDigits⟩

end Numeral

namespace Binary64

/-! ## Shortest digits are no zero -/

theorem coefficient_shortestFrom_ne_zero {value : Binary64} (nonzero : value.units ≠ 0)
    (fuel : Nat) {exponent : Int} (aligned : exponent = fuel + finestGrid) :
    (value.shortestFrom fuel exponent).coefficient ≠ 0 := by
  induction fuel generalizing exponent with
  | zero =>
      have finest : (-exponent).toNat = 1074 := by
        simp only [finestGrid] at aligned
        omega
      have tens : unitsPerOne ≤ Nat.pow 10 (-exponent).toNat := by
        rw [finest]
        decide +kernel
      have positive : 0 < value.units.natAbs := Int.natAbs_pos.mpr nonzero
      have one : 0 < unitsPerOne := by decide +kernel
      have enough := Nat.le_trans tens (Nat.le_mul_of_pos_left _ positive)
      rw [shortestFrom]
      exact Nat.ne_of_gt (Nat.div_pos enough one)
  | succ fuel induction =>
      rw [shortestFrom]
      split
      · next coefficient found =>
          -- A zero would be read back as zero.
          rintro rfl
          have back := List.find?_some found
          simp only [readsBack, Decimal.toBinary64?, if_true, decide_eq_true_eq] at back
          exact nonzero (congrArg units (Option.some.inj back)).symm
      · exact induction (by omega)

theorem coefficient_shortest_ne_zero {value : Binary64} (nonzero : value.units ≠ 0) :
    value.shortest.coefficient ≠ 0 := by
  have positive : value.abs.units ≠ 0 :=
    Int.natCast_ne_zero.mpr (Int.natAbs_ne_zero.mpr nonzero)
  rw [shortest, if_neg nonzero]
  have aligned : ∀ digits : Nat, (digits : Int) = (digits + 1074 : Nat) + finestGrid := by
    intro digits
    simp only [finestGrid]
    omega
  exact coefficient_shortestFrom_ne_zero positive _ (aligned _)

/-! ## Integers are read back -/

/-- A number that is an integer consists of as many ones. -/
theorem units_of_toInt? {value : Binary64} {integer : Int}
    (isInteger : value.toInt? = some integer) : value.units = integer * unitsPerOne := by
  simp only [toInt?, Option.ite_none_right_eq_some, Option.some.injEq] at isInteger
  obtain ⟨divides, rfl⟩ := isInteger
  exact (Int.ediv_mul_cancel (Int.dvd_of_emod_eq_zero divides)).symm

theorem units_abs_of_toInt? {value : Binary64} {integer : Int}
    (isInteger : value.toInt? = some integer) :
    value.abs.units = (integer.natAbs : Int) * unitsPerOne := by
  have magnitude := congrArg (fun units => (units.natAbs : Int)) (units_of_toInt? isInteger)
  simp only [Int.natAbs_mul, Int.natAbs_natCast, Int.natCast_mul] at magnitude
  exact magnitude

theorem neg_iff_of_toInt? {value : Binary64} {integer : Int}
    (isInteger : value.toInt? = some integer) : integer < 0 ↔ value.units < 0 := by
  have one : (0 : Int) < unitsPerOne := Int.natCast_pos.mpr (by decide +kernel)
  rw [units_of_toInt? isInteger]
  exact ⟨fun negative => Int.mul_neg_of_neg_of_pos negative one, fun negative =>
    Int.lt_of_not_ge fun positive =>
      Int.not_lt.mpr (Int.mul_nonneg positive (Int.le_of_lt one)) negative⟩

/-- The sign of an integer makes up for the one that its size lacks. -/
theorem signed_abs {value : Binary64} {integer : Int}
    (isInteger : value.toInt? = some integer) :
    (if decide (integer < 0) then value.abs.neg else value.abs) = value := by
  simp only [neg_iff_of_toInt? isInteger, decide_eq_true_eq]
  apply ext
  split
  · next negative =>
      simp only [neg, abs]
      omega
  · next positive =>
      simp only [abs]
      omega

theorem ofInt?_of_units {value : Binary64} {integer : Int}
    (whole : value.units = integer * unitsPerOne) : ofInt? integer = some value := by
  have exact := nearest?_mul value Nat.one_pos
  rw [whole, Int.natCast_one, Int.mul_one] at exact
  exact exact

/-- The number one. -/
private def one : Binary64 where
  units := unitsPerOne
  representable := by decide +kernel

private theorem powerOfTen_zero : Numeral.powerOfTen 0 = one := by
  have whole : one.units = ((Nat.pow 10 0 : Nat) : Int) * unitsPerOne := (Int.one_mul _).symm
  rw [Numeral.powerOfTen, ofInt?_of_units whole]
  rfl

private theorem mul?_one (value : Binary64) : value.mul? one = some value :=
  nearest?_mul value (by decide +kernel)

end Binary64

namespace Numeral

/-- Digits that make up an integer below `2 ^ 64` are taken together. -/
theorem leadingInteger_of_lt {start : Nat} {digits : List Char}
    (small : Nat.ofDigitChars 10 digits start < Nat.pow 2 64) :
    leadingInteger start digits = (Nat.ofDigitChars 10 digits start, []) := by
  induction digits generalizing start with
  | nil => rfl
  | cons digit digits induction =>
      rw [Nat.ofDigitChars_cons] at small ⊢
      have grows : ∀ digits start, start ≤ Nat.ofDigitChars 10 digits start := by
        intro digits
        induction digits with
        | nil => exact fun _ => Nat.le_refl _
        | cons digit digits induction =>
            intro start
            rw [Nat.ofDigitChars_cons]
            exact Nat.le_trans (by omega) (induction _)
      have next := Nat.lt_of_le_of_lt (grows digits _) small
      rw [leadingInteger, if_pos next]
      exact induction small

/-- Digits alone, all of them taken together, give an integer. -/
private theorem toBinary64?_of_leading {whole : List Char} {integer : Nat} {magnitude : Binary64}
    (negative : Bool) (leading : leadingInteger 0 whole = (integer, []))
    (found : Binary64.ofInt? integer = some magnitude)
    (scaled : scaleUp? magnitude 0 = some magnitude) :
    toBinary64? { negative, whole, decimals := [], exponent := none } =
      some (if negative then magnitude.neg else magnitude) := by
  simp [toBinary64?, leading, leadingInteger, exponentValue, found, scaled]

/-- An integer below `2 ^ 64` is read without any rounding. -/
theorem toBinary64?_ofInt {value : Binary64} {integer : Int}
    (isInteger : value.toInt? = some integer) (small : integer.natAbs < Nat.pow 2 64) :
    (ofInt integer).toBinary64? = some value := by
  have digits : Nat.ofDigitChars 10 (Nat.toDigits 10 integer.natAbs) 0 = integer.natAbs :=
    Nat.ofDigitChars_toDigits (by decide) (by decide)
  have leading : leadingInteger 0 (Nat.toDigits 10 integer.natAbs) = (integer.natAbs, []) := by
    rw [leadingInteger_of_lt (by rwa [digits]), digits]
  have magnitude := Binary64.ofInt?_of_units (Binary64.units_abs_of_toInt? isInteger)
  have scaled : scaleUp? value.abs 0 = some value.abs := by
    rw [scaleUp?, if_pos (Nat.zero_le _), Binary64.powerOfTen_zero, Binary64.mul?_one]
  rw [ofInt, toBinary64?_of_leading _ leading magnitude scaled, Binary64.signed_abs isInteger]

end Numeral

/-! ## Bounds -/

/-- A number is written as an integer. -/
def Binary64.IsWrittenInteger (value : Binary64) : Prop :=
  ∃ integer, value.toInt? = some integer ∧ integer.natAbs ≤ greatestWrittenInteger

theorem boundNumeral_of_not_integer {value : Binary64} (fractional : ¬value.IsWrittenInteger) :
    boundNumeral value = boundLayout.numeral value.shortest := by
  unfold boundNumeral
  split
  · next integer isInteger =>
      rw [if_neg fun small => fractional ⟨integer, isInteger, small⟩]
  · rfl

theorem boundNumeral_of_integer {value : Binary64} {integer : Int}
    (isInteger : value.toInt? = some integer)
    (small : integer.natAbs ≤ greatestWrittenInteger) :
    boundNumeral value = .ofInt integer := by
  rw [boundNumeral, isInteger]
  exact if_pos small

/-- The numeral of a bound is proper. -/
theorem isProper_boundNumeral (value : Binary64) : (boundNumeral value).IsProper := by
  by_cases written : value.IsWrittenInteger
  · obtain ⟨integer, isInteger, small⟩ := written
    rw [boundNumeral_of_integer isInteger small]
    exact Numeral.isProper_ofInt integer
  · have nonzero : value.units ≠ 0 := by
      intro zero
      refine written ⟨0, ?_, Nat.zero_le _⟩
      simp [Binary64.toInt?, zero]
    rw [boundNumeral_of_not_integer written]
    exact Numeral.isProper_numeral _ (Binary64.coefficient_shortest_ne_zero nonzero)

/-- A bound that is written as an integer is read back. -/
theorem toBinary64?_boundNumeral {value : Binary64} (written : value.IsWrittenInteger) :
    (boundNumeral value).toBinary64? = some value := by
  obtain ⟨integer, isInteger, small⟩ := written
  have below : greatestWrittenInteger < Nat.pow 2 64 := by decide
  rw [boundNumeral_of_integer isInteger small]
  exact Numeral.toBinary64?_ofInt isInteger (Nat.lt_of_le_of_lt small below)

end PipeQuery

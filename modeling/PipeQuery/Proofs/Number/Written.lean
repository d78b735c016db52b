import Mathlib.Algebra.Order.Field.Rat
import Mathlib.Tactic.FieldSimp
import Mathlib.Tactic.Ring
import PipeQuery.Proofs.Number.Exact

/-!
# Numbers as they are written

A query writes a number with an optional sign, digits with an optional point in front of, among or
behind them, and an optional exponent.  Reading finds these parts again: the digits make up the
coefficient, the exponent and the decimals the power of ten, and both together are the number that
is written (`WrittenNumber.read?_text`, `WrittenNumber.toRat_decimal`).
-/

namespace PipeQuery

/-- The number that a decimal number is. -/
def Decimal.toRat (decimal : Decimal) : ℚ :=
  decimal.signed * 10 ^ decimal.exponent

/-- The parts of a number as it is written. -/
structure WrittenNumber where
  /-- The sign in front, if there is one: whether it is a minus sign. -/
  sign : Option Bool
  /-- The digits in front of the point. -/
  whole : List Char
  /-- The digits behind the point, if there is a point. -/
  decimals : Option (List Char)
  /-- The letter of the exponent, its sign and its digits. -/
  exponent : Option (Char × Option Bool × List Char)

namespace WrittenNumber

/-- An optional sign: whether it is a minus sign. -/
def signText : Option Bool → List Char
  | none => []
  | some true => ['-']
  | some false => ['+']

/-- An optional point and the digits behind it. -/
def decimalText : Option (List Char) → List Char
  | none => []
  | some digits => '.' :: digits

/-- An optional exponent. -/
def exponentText : Option (Char × Option Bool × List Char) → List Char
  | none => []
  | some (letter, sign, digits) => letter :: (signText sign ++ digits)

/-- The characters of a number. -/
def text (number : WrittenNumber) : List Char :=
  signText number.sign ++
    (number.whole ++ (decimalText number.decimals ++ exponentText number.exponent))

/-- The digits behind the point; without a point there are none. -/
def decimalDigits (number : WrittenNumber) : List Char :=
  number.decimals.getD []

/-- The power of ten that an exponent stands for. -/
def power : Option (Char × Option Bool × List Char) → Int
  | none => 0
  | some (_, sign, digits) =>
      if sign = some true then -(Decimal.digitsValue digits : Int) else Decimal.digitsValue digits

/-- The number that is written. -/
def value (number : WrittenNumber) : ℚ :=
  (if number.sign = some true then -1 else 1) *
    (Decimal.digitsValue number.whole +
      Decimal.digitsValue number.decimalDigits / 10 ^ number.decimalDigits.length) *
    10 ^ power number.exponent

/-- The parts are as the parts of a number have to be. -/
structure IsProper (number : WrittenNumber) : Prop where
  /-- There is a digit in front of the point or behind it. -/
  nonempty : number.whole ≠ [] ∨ number.decimalDigits ≠ []
  /-- In front of the point there are digits only. -/
  whole : ∀ c ∈ number.whole, c.isDigit = true
  /-- Behind the point there are digits only. -/
  decimals : ∀ c ∈ number.decimalDigits, c.isDigit = true
  /-- An exponent has its letter and digits, and nothing else. -/
  exponent : ∀ letter sign digits, number.exponent = some (letter, sign, digits) →
    (letter = 'e' ∨ letter = 'E') ∧ digits ≠ [] ∧ ∀ c ∈ digits, c.isDigit = true

instance (number : WrittenNumber) : Decidable number.IsProper :=
  decidable_of_iff
    ((number.whole ≠ [] ∨ number.decimalDigits ≠ []) ∧ number.whole.all Char.isDigit = true ∧
      number.decimalDigits.all Char.isDigit = true ∧
      (number.exponent.all fun (letter, _, digits) =>
        (letter == 'e' || letter == 'E') && !digits.isEmpty &&
          digits.all Char.isDigit) = true) <| by
    constructor
    · rintro ⟨nonempty, whole, decimals, exponent⟩
      refine ⟨nonempty, List.all_eq_true.mp whole, List.all_eq_true.mp decimals, ?_⟩
      intro letter sign digits written
      simpa [written, and_assoc] using exponent
    · rintro ⟨nonempty, whole, decimals, exponent⟩
      refine ⟨nonempty, List.all_eq_true.mpr whole, List.all_eq_true.mpr decimals, ?_⟩
      cases written : number.exponent with
      | none => rfl
      | some parts => simpa [and_assoc] using exponent _ _ _ written

/-- The coefficient and the power of ten of a number. -/
def decimal (number : WrittenNumber) : Decimal where
  negative := number.sign == some true
  coefficient := Decimal.digitsValue (number.whole ++ number.decimalDigits)
  exponent := power number.exponent - number.decimalDigits.length

/-! ## Reading the parts -/

theorem sign_append (sign : Option Bool) {rest : List Char}
    (unsigned : ∀ c ∈ rest.head?, c ≠ '-' ∧ c ≠ '+') :
    Decimal.sign (signText sign ++ rest) = (sign == some true, rest) := by
  cases sign with
  | some negative => cases negative <;> rfl
  | none =>
      rw [signText, List.nil_append, Decimal.sign.eq_def]
      split
      · exact absurd rfl (unsigned '-' rfl).1
      · exact absurd rfl (unsigned '+' rfl).2
      · rfl

private theorem ne_sign_of_isDigit {c : Char} (isDigit : c.isDigit = true) :
    c ≠ '-' ∧ c ≠ '+' := by
  constructor <;> rintro rfl <;> cases isDigit

/-- A run of digits, however it goes on, starts with no sign. -/
private theorem unsigned_digits {digits : List Char} (isRun : ∀ c ∈ digits, c.isDigit = true) :
    ∀ c ∈ digits.head?, c ≠ '-' ∧ c ≠ '+' :=
  fun c first => ne_sign_of_isDigit (isRun c (List.mem_of_mem_head? first))

variable {number : WrittenNumber}

theorem exponent?_text (proper : number.IsProper) :
    Decimal.exponent? (exponentText number.exponent) = some (power number.exponent) := by
  cases written : number.exponent with
  | none => rfl
  | some exponent =>
      obtain ⟨letter, sign, digits⟩ := exponent
      obtain ⟨isLetter, nonempty, isRun⟩ := proper.exponent letter sign digits written
      have run : (!digits.isEmpty && digits.all Char.isDigit) = true := by
        simpa [nonempty] using isRun
      simp only [exponentText, Decimal.exponent?, isLetter, if_true,
        sign_append sign (unsigned_digits isRun), run, power, beq_iff_eq]

/-- An exponent starts with its letter. -/
private theorem head?_exponentText (proper : number.IsProper) :
    ∀ c ∈ (exponentText number.exponent).head?, c = 'e' ∨ c = 'E' := by
  intro c first
  cases written : number.exponent with
  | none =>
      rw [written] at first
      cases first
  | some exponent =>
      obtain ⟨letter, sign, digits⟩ := exponent
      rw [written] at first
      cases first
      exact (proper.exponent c sign digits written).1

theorem fraction_text (proper : number.IsProper) :
    Decimal.fraction (decimalText number.decimals ++ exponentText number.exponent) =
      (number.decimalDigits, exponentText number.exponent) := by
  have letter := head?_exponentText proper
  cases written : number.decimals with
  | none =>
      rw [decimalText, List.nil_append, Decimal.fraction.eq_def, decimalDigits, written]
      split
      · next rest same =>
          rw [same] at letter
          exact absurd (letter '.' rfl) (by decide)
      · rfl
  | some digits =>
      have isRun := proper.decimals
      rw [decimalDigits, written] at isRun
      rw [decimalDigits, written]
      refine Decimal.digits_append_of_stop isRun fun c first => ?_
      rcases letter c first with rfl | rfl <;> rfl

/-- Behind the digits in front of the point there comes a point, a letter or nothing. -/
private theorem head?_behind_whole (proper : number.IsProper) :
    ∀ c ∈ (decimalText number.decimals ++ exponentText number.exponent).head?,
      c = '.' ∨ c = 'e' ∨ c = 'E' := by
  intro c first
  cases written : number.decimals with
  | none =>
      rw [written] at first
      exact .inr (head?_exponentText proper c first)
  | some digits =>
      rw [written] at first
      cases first
      exact .inl rfl

/-- Behind its sign a number starts with a digit or a point. -/
private theorem unsigned_behind_sign (proper : number.IsProper) :
    ∀ c ∈ (number.whole ++ (decimalText number.decimals ++ exponentText number.exponent)).head?,
      c ≠ '-' ∧ c ≠ '+' := by
  intro c first
  cases written : number.whole with
  | nil =>
      rw [written] at first
      rcases head?_behind_whole proper c first with rfl | rfl | rfl <;> decide
  | cons digit digits =>
      rw [written] at first
      cases first
      exact ne_sign_of_isDigit (proper.whole c (by rw [written]; exact List.mem_cons_self))

/-- The parts of a number are found again. -/
theorem read?_text (proper : number.IsProper) :
    Decimal.read? number.text = some number.decimal := by
  have signed := sign_append number.sign (unsigned_behind_sign proper)
  have run := Decimal.digits_append_of_stop proper.whole fun c first => by
    rcases head?_behind_whole proper c first with rfl | rfl | rfl <;> rfl
  have nonempty : (number.whole.isEmpty && number.decimalDigits.isEmpty) = false := by
    rcases proper.nonempty with whole | decimals
    · simp [whole]
    · simp [decimals]
  simp only [Decimal.read?, text, signed, run, fraction_text proper, nonempty, Bool.false_eq_true,
    if_false, exponent?_text proper, Option.map_some, decimal]

/-- The digits and the power of ten that are found are the number that is written. -/
theorem toRat_decimal (number : WrittenNumber) : number.decimal.toRat = number.value := by
  have digits : (number.decimal.coefficient : ℚ) =
      (Decimal.digitsValue number.whole +
        Decimal.digitsValue number.decimalDigits / 10 ^ number.decimalDigits.length) *
        10 ^ number.decimalDigits.length := by
    have split : number.decimal.coefficient =
        10 ^ number.decimalDigits.length * Decimal.digitsValue number.whole +
          Decimal.digitsValue number.decimalDigits := by
      simp only [decimal, Decimal.digitsValue, Nat.ofDigitChars_append]
      rw [Nat.ofDigitChars_eq_ofDigitChars_zero]
    rw [split]
    push_cast
    field_simp
  have signed : (number.decimal.signed : ℚ) =
      (if number.sign = some true then -1 else 1) * number.decimal.coefficient := by
    simp only [Decimal.signed, decimal, beq_iff_eq]
    split <;> simp
  have exponent : (10 : ℚ) ^ number.decimal.exponent =
      10 ^ power number.exponent / 10 ^ number.decimalDigits.length := by
    simp only [decimal]
    rw [zpow_sub₀ (by norm_num), zpow_natCast]
  rw [Decimal.toRat, signed, digits, exponent, value]
  field_simp

/-! ## Every number has its parts -/

private theorem exists_sign (characters : List Char) :
    ∃ sign rest, characters = signText sign ++ rest ∧
      Decimal.sign characters = (sign == some true, rest) := by
  unfold Decimal.sign
  split
  · exact ⟨some true, _, rfl, rfl⟩
  · exact ⟨some false, _, rfl, rfl⟩
  · exact ⟨none, _, rfl, rfl⟩

private theorem isDigit_of_mem_digits {characters : List Char} :
    ∀ c ∈ (Decimal.digits characters).1, c.isDigit = true :=
  fun _ member => List.all_eq_true.mp List.all_takeWhile _ member

private theorem exists_fraction (characters : List Char) :
    ∃ decimals rest, characters = decimalText decimals ++ rest ∧
      (∀ c ∈ decimals.getD [], c.isDigit = true) ∧
      Decimal.fraction characters = (decimals.getD [], rest) := by
  unfold Decimal.fraction
  split
  · next behind =>
      refine ⟨some (Decimal.digits behind).1, (Decimal.digits behind).2, ?_,
        isDigit_of_mem_digits, rfl⟩
      rw [decimalText, List.cons_append, Decimal.digits_append]
  · exact ⟨none, _, rfl, nofun, rfl⟩

private theorem exists_exponent {characters : List Char} {exponent : Int}
    (read : Decimal.exponent? characters = some exponent) :
    ∃ written, characters = exponentText written ∧
      ∀ letter sign digits, written = some (letter, sign, digits) →
        (letter = 'e' ∨ letter = 'E') ∧ digits ≠ [] ∧ ∀ c ∈ digits, c.isDigit = true := by
  unfold Decimal.exponent? at read
  split at read
  · exact ⟨none, rfl, by simp⟩
  · next letter rest =>
      split at read
      · next isLetter =>
          obtain ⟨sign, digits, rfl, signed⟩ := exists_sign rest
          simp only [signed, Option.ite_none_right_eq_some, Bool.and_eq_true, Bool.not_eq_true',
            List.isEmpty_eq_false_iff, List.all_eq_true] at read
          refine ⟨some (letter, sign, digits), rfl, ?_⟩
          rintro _ _ _ ⟨⟩
          exact ⟨isLetter, read.1⟩
      · cases read

/-- The texts that are read as numbers are those of numbers with proper parts. -/
theorem isSome_read?_iff {characters : List Char} :
    (Decimal.read? characters).isSome ↔
      ∃ number : WrittenNumber, number.IsProper ∧ number.text = characters := by
  constructor
  · intro read
    obtain ⟨sign, unsigned, rfl, signed⟩ := exists_sign characters
    obtain ⟨decimals, rest, behind, areDecimals, fraction⟩ :=
      exists_fraction (Decimal.digits unsigned).2
    simp only [Decimal.read?, signed, fraction] at read
    split at read
    · cases read
    · next nonempty =>
        obtain ⟨exponent, isExponent⟩ := Option.isSome_iff_exists.mp (Option.isSome_map .. ▸ read)
        obtain ⟨written, rfl, exponentProper⟩ := exists_exponent isExponent
        refine ⟨{ sign, whole := (Decimal.digits unsigned).1, decimals, exponent := written },
          ⟨?_, isDigit_of_mem_digits, areDecimals, exponentProper⟩, ?_⟩
        · simpa only [Bool.and_eq_true, List.isEmpty_iff, not_and_or, decimalDigits] using nonempty
        · rw [text, ← behind, Decimal.digits_append]
  · rintro ⟨number, proper, rfl⟩
    rw [read?_text proper]
    rfl

/-! ## Numbers are words -/

theorem isWord_text (proper : number.IsProper) : Text.IsWord (String.ofList number.text) := by
  have allowed : ∀ c ∈ number.text,
      c.isDigit = true ∨ c = '-' ∨ c = '+' ∨ c = '.' ∨ c = 'e' ∨ c = 'E' := by
    have ofSign : ∀ sign, ∀ c ∈ signText sign, c = '-' ∨ c = '+' := by
      rintro (_ | _ | _) c member <;> simp_all [signText]
    intro c member
    simp only [text, List.mem_append] at member
    rcases member with sign | whole | decimals | exponent
    · rcases ofSign _ c sign with rfl | rfl <;> decide
    · exact .inl (proper.whole c whole)
    · have isRun := proper.decimals
      cases written : number.decimals with
      | none =>
          rw [written] at decimals
          cases decimals
      | some digits =>
          rw [written] at decimals
          rw [decimalDigits, written] at isRun
          rcases List.mem_cons.mp decimals with rfl | digit
          · decide
          · exact .inl (isRun c digit)
    · cases written : number.exponent with
      | none =>
          rw [written] at exponent
          cases exponent
      | some parts =>
          obtain ⟨letter, sign, digits⟩ := parts
          obtain ⟨isLetter, -, isRun⟩ := proper.exponent letter sign digits written
          rw [written] at exponent
          rcases List.mem_cons.mp exponent with rfl | member
          · rcases isLetter with rfl | rfl <;> decide
          · rcases List.mem_append.mp member with isSign | digit
            · rcases ofSign _ c isSign with rfl | rfl <;> decide
            · exact .inl (isRun c digit)
  have characters : ∀ c ∈ number.text, Text.isWord c = true := by
    intro c member
    rcases allowed c member with isDigit | rfl | rfl | rfl | rfl | rfl
    · exact Decimal.isWord_of_isDigit isDigit
    all_goals decide
  have nonempty : number.text ≠ [] := by
    intro nothing
    have read := read?_text proper
    rw [nothing] at read
    cases read
  constructor <;> rw [String.toList_ofList]
  · exact nonempty
  · intro quoted
    have first := allowed '"' (List.mem_of_mem_head? quoted)
    revert first
    decide
  · exact characters

end WrittenNumber
end PipeQuery

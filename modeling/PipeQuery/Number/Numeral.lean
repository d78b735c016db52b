import PipeQuery.Number.Shortest

/-!
# Numerals of a data text

A numeral is a number as a data text writes it: an optional minus sign, digits without needless
zeros in front, decimals behind a point, and an exponent.  Integers are written by their digits;
other numbers by their shortest digits, with an exponent where the layout asks for one.

The value of a numeral is found in two steps with a rounding each: the leading digits that make up
an integer below `2 ^ 64`, and their product with, or quotient by, a power of ten.
-/

namespace PipeQuery

/-- A number as it is written. -/
structure Numeral where
  /-- A minus sign comes first. -/
  negative : Bool
  /-- The digits in front of the point. -/
  whole : List Char
  /-- The digits behind the point; without any there is no point. -/
  decimals : List Char
  /-- Whether the exponent is negative, and its digits. -/
  exponent : Option (Bool × List Char)
  deriving DecidableEq, Repr

namespace Numeral

/-- The characters of a numeral. -/
def text (numeral : Numeral) : List Char :=
  (if numeral.negative then ['-'] else []) ++ numeral.whole ++
    (if numeral.decimals.isEmpty then [] else '.' :: numeral.decimals) ++
    match numeral.exponent with
    | some (negative, digits) => 'e' :: (if negative then '-' else '+') :: digits
    | none => []

/-- The digits in front of a point: a zero alone, or a run that starts with another digit. -/
def wholeDigits? : List Char → Option (List Char × List Char)
  | '0' :: rest => some (['0'], rest)
  | text => Decimal.someDigits? text

/-- The digits behind a point, which must not be missing once the point is there. -/
def decimalDigits? : List Char → Option (List Char × List Char)
  | '.' :: rest => Decimal.someDigits? rest
  | text => some ([], text)

/-- An exponent, whose digits must not be missing once its letter is there. -/
def exponentDigits? : List Char → Option (Option (Bool × List Char) × List Char)
  | c :: rest =>
      if c = 'e' ∨ c = 'E' then
        (Decimal.someDigits? (Decimal.sign rest).2).map fun (digits, text) =>
          (some ((Decimal.sign rest).1, digits), text)
      else some (none, c :: rest)
  | [] => some (none, [])

/-- Read a numeral without its sign in front of a text. -/
def readUnsigned? (negative : Bool) (text : List Char) : Option (Numeral × List Char) := do
  let (whole, text) ← wholeDigits? text
  let (decimals, text) ← decimalDigits? text
  let (exponent, text) ← exponentDigits? text
  return ({ negative, whole, decimals, exponent }, text)

/-- Read a numeral in front of a text. -/
def read? : List Char → Option (Numeral × List Char)
  | '-' :: rest => readUnsigned? true rest
  | text => readUnsigned? false text

theorem length_rest_wholeDigits? {text digits rest : List Char}
    (found : wholeDigits? text = some (digits, rest)) : rest.length < text.length := by
  unfold wholeDigits? at found
  split at found
  · cases found
    simp
  · exact Decimal.length_rest_someDigits? found

theorem length_rest_decimalDigits? {text digits rest : List Char}
    (found : decimalDigits? text = some (digits, rest)) : rest.length ≤ text.length := by
  unfold decimalDigits? at found
  split at found
  · have := Decimal.length_rest_someDigits? found
    simp only [List.length_cons]
    omega
  · cases found
    exact Nat.le_refl _

theorem length_rest_exponentDigits? {text rest : List Char}
    {exponent : Option (Bool × List Char)}
    (found : exponentDigits? text = some (exponent, rest)) : rest.length ≤ text.length := by
  unfold exponentDigits? at found
  split at found
  · next c tail =>
      split at found
      · simp only [Option.map_eq_some_iff, Prod.mk.injEq] at found
        obtain ⟨⟨digits, _⟩, found, _, rfl⟩ := found
        have := Decimal.length_rest_someDigits? found
        have := Decimal.length_rest_sign_le tail
        simp only [List.length_cons]
        omega
      · cases found
        exact Nat.le_refl _
  · cases found
    exact Nat.le_refl _

theorem length_rest_readUnsigned? {negative : Bool} {text rest : List Char} {numeral : Numeral}
    (found : readUnsigned? negative text = some (numeral, rest)) :
    rest.length < text.length := by
  simp only [readUnsigned?, bind, Option.bind_eq_some_iff, pure, Option.some.injEq,
    Prod.mk.injEq] at found
  obtain ⟨⟨whole, afterWhole⟩, wholeFound, ⟨decimals, afterDecimals⟩, decimalsFound,
    ⟨exponent, afterExponent⟩, exponentFound, _, rfl⟩ := found
  have := length_rest_wholeDigits? wholeFound
  have := length_rest_decimalDigits? decimalsFound
  have := length_rest_exponentDigits? exponentFound
  simp only at *
  omega

/-- A numeral takes at least one character. -/
theorem length_rest_read? {text rest : List Char} {numeral : Numeral}
    (found : read? text = some (numeral, rest)) : rest.length < text.length := by
  unfold read? at found
  split at found
  · have := length_rest_readUnsigned? found
    simp only [List.length_cons]
    omega
  · exact length_rest_readUnsigned? found

/-- The integer that the leading digits after `start` make up while it stays below `2 ^ 64`, and
the digits left over. -/
def leadingInteger (start : Nat) : List Char → Nat × List Char
  | [] => (start, [])
  | digit :: digits =>
      let next := 10 * start + (digit.toNat - '0'.toNat)
      if next < Nat.pow 2 64 then leadingInteger next digits else (start, digit :: digits)

/-- The power of ten, rounded to a binary64 number. -/
def powerOfTen (exponent : Nat) : Binary64 :=
  (Binary64.ofInt? (Nat.pow 10 exponent)).getD .zero

/-- The greatest power of ten used in one step. -/
def greatestPower : Nat := 308

/-- Multiply by a power of ten. -/
def scaleUp? (value : Binary64) (exponent : Nat) : Option Binary64 :=
  if exponent ≤ greatestPower then value.mul? (powerOfTen exponent)
  else if value = .zero then some .zero
  else none

/-- Divide by a power of ten, in several steps if it is large. -/
def scaleDown? (value : Binary64) (exponent : Nat) : Option Binary64 :=
  if exponent ≤ greatestPower then value.div? (powerOfTen exponent)
  else if value = .zero then some .zero
  else
    (value.div? (powerOfTen greatestPower)).bind fun quotient =>
      scaleDown? quotient (exponent - greatestPower)
  termination_by exponent
  decreasing_by simp only [greatestPower] at *; omega

/-- The value of the written exponent. -/
def exponentValue (numeral : Numeral) : Int :=
  match numeral.exponent with
  | some (true, digits) => -(Decimal.digitsValue digits : Int)
  | some (false, digits) => Decimal.digitsValue digits
  | none => 0

/-- The value of a numeral; none when it lies beyond the finite numbers. -/
def toBinary64? (numeral : Numeral) : Option Binary64 :=
  let (whole, wholeLeft) := leadingInteger 0 numeral.whole
  let (leading, decimalsLeft) := leadingInteger whole numeral.decimals
  let exponent : Int :=
    numeral.exponentValue + wholeLeft.length -
      (numeral.decimals.length - decimalsLeft.length : Nat)
  let magnitude? :=
    (Binary64.ofInt? leading).bind fun value =>
      if 0 ≤ exponent then scaleUp? value exponent.toNat
      else scaleDown? value (-exponent).toNat
  magnitude?.map fun magnitude => if numeral.negative then magnitude.neg else magnitude

/-- The numeral of an integer. -/
def ofInt (value : Int) : Numeral where
  negative := decide (value < 0)
  whole := Nat.toDigits 10 value.natAbs
  decimals := []
  exponent := none

/-- Where numerals change from places to exponents. -/
structure Layout where
  /-- The least power of ten at the first digit of a number written without exponent. -/
  leastPower : Int
  /-- The greatest power of ten at the first digit of a number written without exponent. -/
  greatestPower : Int

namespace Layout

/-- The numeral of a decimal number.  Without exponent at least one digit stands on either side of
the point; with one a single digit stands in front, and the point is left out when nothing
follows. -/
def numeral (layout : Layout) (decimal : Decimal) : Numeral :=
  let digits := Nat.toDigits 10 decimal.coefficient
  let power : Int := digits.length - 1 + decimal.exponent
  if layout.leastPower ≤ power ∧ power ≤ layout.greatestPower then
    if 0 ≤ decimal.exponent then
      { negative := decimal.negative
        whole := digits ++ List.replicate decimal.exponent.toNat '0'
        decimals := ['0']
        exponent := none }
    else if 0 ≤ power then
      { negative := decimal.negative
        whole := digits.take (power.toNat + 1)
        decimals := digits.drop (power.toNat + 1)
        exponent := none }
    else
      { negative := decimal.negative
        whole := ['0']
        decimals := List.replicate ((-power).toNat - 1) '0' ++ digits
        exponent := none }
  else
    { negative := decimal.negative
      whole := digits.take 1
      decimals := digits.drop 1
      exponent := some (decide (power < 0), Nat.toDigits 10 power.natAbs) }

end Layout
end Numeral
end PipeQuery

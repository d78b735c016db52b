import PipeQuery.Number.Binary64

/-!
# Decimal numbers

A decimal number is an integral multiple of a power of ten.  A query writes it with an optional
sign, digits with an optional point among or around them, and an optional exponent; it stands for
the nearest binary64 number.
-/

namespace PipeQuery

/-- A sign, a coefficient and the power of ten that it is multiplied by. -/
structure Decimal where
  /-- The number is below zero, or a zero written with a minus sign. -/
  negative : Bool
  /-- The digits, read as one natural number. -/
  coefficient : Nat
  /-- The power of ten. -/
  exponent : Int
  deriving DecidableEq, Repr

namespace Decimal

/-- The value of a run of digits. -/
def digitsValue (digits : List Char) : Nat :=
  Nat.ofDigitChars 10 digits 0

/-- An optional sign: whether it is a minus, and what follows it. -/
def sign : List Char → Bool × List Char
  | '-' :: rest => (true, rest)
  | '+' :: rest => (false, rest)
  | text => (false, text)

/-- The longest run of digits in front and what follows it. -/
def digits (text : List Char) : List Char × List Char :=
  (text.takeWhile Char.isDigit, text.dropWhile Char.isDigit)

/-- The longest run of digits in front, which must not be empty, and what follows it. -/
def someDigits? (text : List Char) : Option (List Char × List Char) :=
  if (digits text).1.isEmpty then none else some (digits text)

/-- The digits behind a point, if a point comes first, and what follows them. -/
def fraction : List Char → List Char × List Char
  | '.' :: rest => digits rest
  | text => ([], text)

/-- An exponent that makes up the whole text; an empty text stands for the exponent zero. -/
def exponent? : List Char → Option Int
  | [] => some 0
  | c :: rest =>
      if c = 'e' ∨ c = 'E' then
        let (negative, text) := sign rest
        if !text.isEmpty && text.all Char.isDigit then
          some (if negative then -(digitsValue text : Int) else digitsValue text)
        else none
      else none

/-- The number that a text spells. -/
def read? (text : List Char) : Option Decimal :=
  let (negative, text) := sign text
  let (whole, text) := digits text
  let (decimals, text) := fraction text
  if whole.isEmpty && decimals.isEmpty then none
  else
    (exponent? text).map fun exponent =>
      { negative
        coefficient := digitsValue (whole ++ decimals)
        exponent := exponent - decimals.length }

/-- Number of digits of the coefficient. -/
def width (decimal : Decimal) : Nat :=
  (Nat.toDigits 10 decimal.coefficient).length

/-- The coefficient with its sign. -/
def signed (decimal : Decimal) : Int :=
  if decimal.negative then -(decimal.coefficient : Int) else decimal.coefficient

/-- The nearest binary64 number.  Every number of at least `10 ^ 309` lies beyond the finite ones,
and every number below `10 ^ (-324)` lies nearest to zero, so the power of ten stays small. -/
def toBinary64? (decimal : Decimal) : Option Binary64 :=
  if decimal.coefficient = 0 then some .zero
  else if 310 ≤ decimal.exponent + decimal.width then none
  else if decimal.exponent + decimal.width ≤ -324 then some .zero
  else if 0 ≤ decimal.exponent then
    Binary64.ofInt? (decimal.signed * Nat.pow 10 decimal.exponent.toNat)
  else
    Binary64.ofRatio? decimal.signed (Nat.pow 10 (-decimal.exponent).toNat)

/-- A run of digits and what follows it make up the text. -/
theorem digits_append (text : List Char) : (digits text).1 ++ (digits text).2 = text :=
  List.takeWhile_append_dropWhile

theorem length_rest_someDigits? {text run rest : List Char}
    (found : someDigits? text = some (run, rest)) : rest.length < text.length := by
  simp only [someDigits?, Option.ite_none_left_eq_some, Option.some.injEq] at found
  obtain ⟨nonempty, found⟩ := found
  have counted := congrArg List.length (digits_append text)
  rw [List.length_append, found] at counted
  have : 0 < run.length := by
    rw [found] at nonempty
    simpa [List.length_pos_iff] using nonempty
  simp only at counted
  omega

theorem length_rest_sign_le (text : List Char) : (sign text).2.length ≤ text.length := by
  unfold sign
  split <;> simp

end Decimal

/-- The finite binary64 number that a word of a query spells. -/
def Binary64.ofWord? (word : String) : Option Binary64 :=
  (Decimal.read? word.toList).bind Decimal.toBinary64?

end PipeQuery

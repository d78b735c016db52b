import PipeQuery.Clause.Keyword
import PipeQuery.Number.Decimal

/-!
# The case of letters in numbers

The only letter in the spelling of a number is the mark in front of its exponent, which may be small
or capital.  So a word spells the same number with its letters made small
(`Decimal.read?_lower`).
-/

namespace PipeQuery

namespace Text

theorem toNat_toLower (c : Char) :
    c.toLower.toNat = if 65 ≤ c.toNat ∧ c.toNat ≤ 90 then c.toNat + 32 else c.toNat := by
  unfold Char.toLower
  split
  · next isCapital =>
      simp only [ge_iff_le, UInt32.le_iff_toNat_le, Char.toNat_val] at isCapital
      have capital : 65 ≤ c.toNat ∧ c.toNat ≤ 90 := isCapital
      rw [if_pos capital, ← Char.toNat_val, UInt32.toNat_add, Char.toNat_val]
      exact Nat.mod_eq_of_lt (by simp; omega)
  · next other =>
      simp only [ge_iff_le, UInt32.le_iff_toNat_le, Char.toNat_val] at other
      have other' : ¬(65 ≤ c.toNat ∧ c.toNat ≤ 90) := other
      rw [if_neg other']

theorem isDigit_iff {c : Char} : c.isDigit = true ↔ 48 ≤ c.toNat ∧ c.toNat ≤ 57 := by
  simp [Char.isDigit, UInt32.le_iff_toNat_le]

@[simp]
theorem isDigit_toLower (c : Char) : c.toLower.isDigit = c.isDigit := by
  rw [Bool.eq_iff_iff, isDigit_iff, isDigit_iff, toNat_toLower]
  split <;> omega

theorem toLower_of_isDigit {c : Char} (isDigit : c.isDigit = true) : c.toLower = c := by
  rw [isDigit_iff] at isDigit
  rw [← Char.toNat_inj, toNat_toLower, if_neg (by omega)]

/-- A mark that is no Latin letter stands for itself alone. -/
theorem toLower_eq_iff {c mark : Char}
    (noLetter : ¬(65 ≤ mark.toNat ∧ mark.toNat ≤ 90) ∧ ¬(97 ≤ mark.toNat ∧ mark.toNat ≤ 122)) :
    c.toLower = mark ↔ c = mark := by
  rw [← Char.toNat_inj, ← Char.toNat_inj, toNat_toLower]
  split <;> omega

/-- A text with a mark in front has it in front with its letters made small, and conversely. -/
theorem exists_of_map_toLower_eq_cons {text rest : List Char} {mark : Char}
    (noLetter : ¬(65 ≤ mark.toNat ∧ mark.toNat ≤ 90) ∧ ¬(97 ≤ mark.toNat ∧ mark.toNat ≤ 122))
    (same : text.map Char.toLower = mark :: rest) : ∃ rest', text = mark :: rest' := by
  obtain ⟨c, rest', rfl, isMark, -⟩ := List.map_eq_cons_iff.mp same
  exact ⟨rest', by rw [(toLower_eq_iff noLetter).mp isMark]⟩

theorem map_toLower_digits {run : List Char} (areDigits : ∀ c ∈ run, c.isDigit = true) :
    run.map Char.toLower = run := by
  rw [List.map_congr_left fun c member => toLower_of_isDigit (areDigits c member), List.map_id']

theorem isDigit_comp_toLower : Char.isDigit ∘ Char.toLower = Char.isDigit :=
  funext isDigit_toLower

end Text

namespace Decimal

open Text

theorem sign_lower (text : List Char) :
    sign (text.map Char.toLower) = ((sign text).1, (sign text).2.map Char.toLower) := by
  fun_cases sign text with
  | case1 => rfl
  | case2 => rfl
  | case3 _ noMinus noPlus =>
      rw [sign.eq_3]
      · intro rest same
        obtain ⟨rest', split⟩ := exists_of_map_toLower_eq_cons (by decide) same
        exact noMinus rest' split
      · intro rest same
        obtain ⟨rest', split⟩ := exists_of_map_toLower_eq_cons (by decide) same
        exact noPlus rest' split

theorem digits_lower (text : List Char) :
    digits (text.map Char.toLower) = ((digits text).1, (digits text).2.map Char.toLower) := by
  have run : (text.takeWhile Char.isDigit).map Char.toLower = text.takeWhile Char.isDigit :=
    map_toLower_digits fun c member => List.all_eq_true.mp List.all_takeWhile c member
  rw [digits, digits, List.takeWhile_map, List.dropWhile_map, isDigit_comp_toLower, run]

theorem fraction_lower (text : List Char) :
    fraction (text.map Char.toLower) =
      ((fraction text).1, (fraction text).2.map Char.toLower) := by
  fun_cases fraction text with
  | case1 rest => exact digits_lower rest
  | case2 _ noPoint =>
      rw [fraction.eq_2]
      intro rest same
      obtain ⟨rest', split⟩ := exists_of_map_toLower_eq_cons (by decide) same
      exact noPoint rest' split

theorem isExponentMark_lower (c : Char) :
    c.toLower = 'e' ∨ c.toLower = 'E' ↔ c = 'e' ∨ c = 'E' := by
  have small : 'e'.toNat = 101 := rfl
  have capital : 'E'.toNat = 69 := rfl
  simp only [← Char.toNat_inj, toNat_toLower]
  split <;> omega

theorem exponent?_lower (text : List Char) :
    exponent? (text.map Char.toLower) = exponent? text := by
  cases text with
  | nil => rfl
  | cons c rest =>
      simp only [List.map_cons, exponent?, isExponentMark_lower, sign_lower, List.isEmpty_map,
        List.all_map, isDigit_comp_toLower]
      split
      · split
        · next isNumber =>
            rw [Bool.and_eq_true, List.all_eq_true] at isNumber
            rw [map_toLower_digits isNumber.2]
        · rfl
      · rfl

/-- A text spells the same number with its letters made small. -/
theorem read?_lower (text : List Char) : read? (text.map Char.toLower) = read? text := by
  simp only [read?, sign_lower, digits_lower, fraction_lower, exponent?_lower]

end Decimal

theorem Binary64.ofWord?_lower (word : String) :
    ofWord? (Keyword.lower word) = ofWord? word := by
  rw [ofWord?, ofWord?, Keyword.lower, String.toList_map, Decimal.read?_lower]

end PipeQuery

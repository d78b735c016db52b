import PipeQuery.Json.Lexeme
import PipeQuery.Proofs.Number.Numeral

/-!
# Lexemes are read as they are written

A string between quotes stands for itself whatever its characters are, and every lexeme is read back
in front of a text that does not prolong it (`Lexeme.read?_text_append`); only a numeral can be
prolonged.
-/

namespace PipeQuery
namespace Json

/-! ## Strings -/

/-- A unit is what is read where a character is written, and stands for that character. -/
structure TextUnit.StandsFor (unit : TextUnit) (c : Char) : Prop where
  /-- It is read where the character is written. -/
  read : ∀ rest, units? (escaped c ++ rest) =
    (units? rest).map fun (units, rest) => (unit :: units, rest)
  /-- It stands for the character. -/
  meaning : ∀ units, TextUnit.characters? (unit :: units) =
    (TextUnit.characters? units).map (c :: ·)

private theorem units?_shortEscape {letter c : Char} (escapes : shortEscape? letter = some c)
    (rest : List Char) :
    units? ('\\' :: letter :: rest) =
      (units? rest).map fun (units, rest) => (.character c :: units, rest) := by
  have noUnit : letter ≠ 'u' := by
    rintro rfl
    cases escapes
  rw [units?.eq_4]
  · rw [escapes]
    cases units? rest <;> rfl
  · rintro _ _ _ _ _ rfl
    exact absurd rfl noUnit

private theorem hexUnit?_digitChar :
    ∀ n < 0x20, hexUnit? '0' '0' (Nat.digitChar (n / 16)) (Nat.digitChar (n % 16)) =
      some (.code n) := by
  decide

private theorem characters?_character (c : Char) (units : List TextUnit) :
    TextUnit.characters? (.character c :: units) = (TextUnit.characters? units).map (c :: ·) := rfl

private theorem characters?_code {c : Char} (small : c.toNat < 0x20) (units : List TextUnit) :
    TextUnit.characters? (.code c.toNat :: units) =
      (TextUnit.characters? units).map (c :: ·) := by
  have notHigh : TextUnit.isHigh c.toNat = false := by
    simp [TextUnit.isHigh]
    omega
  have notLow : TextUnit.isLow c.toNat = false := by
    simp [TextUnit.isLow]
    omega
  simp [TextUnit.characters?, TextUnit.charactersAfter?, notHigh, notLow, Char.ofNat_toNat]

/-- A character stands between quotes as a short escape, as an escape by its code, or as itself. -/
theorem escaped_cases (c : Char) :
    (∃ letter, shortEscape? letter = some c ∧ escaped c = ['\\', letter]) ∨
      (c.toNat < 0x20 ∧ escaped c =
        ['\\', 'u', '0', '0', Nat.digitChar (c.toNat / 16), Nat.digitChar (c.toNat % 16)]) ∨
      (c ≠ '"' ∧ c ≠ '\\' ∧ ¬c.toNat < 0x20 ∧ escaped c = [c]) := by
  unfold escaped
  split
  · exact .inl ⟨'"', rfl, rfl⟩
  · exact .inl ⟨'\\', rfl, rfl⟩
  · exact .inl ⟨'b', rfl, rfl⟩
  · exact .inl ⟨'f', rfl, rfl⟩
  · exact .inl ⟨'n', rfl, rfl⟩
  · exact .inl ⟨'r', rfl, rfl⟩
  · exact .inl ⟨'t', rfl, rfl⟩
  · next notQuote notEscape _ _ _ _ _ =>
      split
      · next small => exact .inr (.inl ⟨small, rfl⟩)
      · next large => exact .inr (.inr ⟨notQuote, notEscape, large, rfl⟩)

theorem exists_standsFor (c : Char) : ∃ unit : TextUnit, unit.StandsFor c := by
  rcases escaped_cases c with ⟨letter, escapes, written⟩ | ⟨small, written⟩ |
    ⟨notQuote, notEscape, large, written⟩
  · refine ⟨.character c, ?_, characters?_character c⟩
    intro rest
    rw [written]
    exact units?_shortEscape escapes rest
  · refine ⟨.code c.toNat, ?_, characters?_code small⟩
    intro rest
    rw [written]
    simp only [List.cons_append, List.nil_append, units?, hexUnit?_digitChar c.toNat small]
    cases units? rest <;> rfl
  · refine ⟨.character c, ?_, characters?_character c⟩
    intro rest
    rw [written, List.cons_append, List.nil_append, units?.eq_5 _ _ notQuote, if_neg large]
    · cases units? rest <;> rfl
    · exact fun _ _ _ _ _ isEscape => absurd isEscape notEscape
    · exact fun _ _ isEscape => absurd isEscape notEscape

/-- A string is read up to its closing quote, and stands for its characters. -/
theorem exists_units?_append (characters rest : List Char) :
    ∃ units, units? (characters.flatMap escaped ++ '"' :: rest) = some (units, rest) ∧
      TextUnit.characters? units = some characters := by
  induction characters with
  | nil => exact ⟨[], rfl, rfl⟩
  | cons c characters induction =>
      obtain ⟨units, read, meaning⟩ := induction
      obtain ⟨unit, stands⟩ := exists_standsFor c
      refine ⟨unit :: units, ?_, ?_⟩
      · rw [List.flatMap_cons, List.append_assoc, stands.read, read]
        rfl
      · rw [stands.meaning, meaning]
        rfl

theorem string?_append (value : Option String) (rest : List Char) :
    Lexeme.read? (quoted value ++ rest) = some (.string value, rest) := by
  cases value with
  | none => rfl
  | some value =>
      obtain ⟨units, read, meaning⟩ := exists_units?_append value.toList rest
      have whole : quoted (some value) ++ rest =
          '"' :: (value.toList.flatMap escaped ++ '"' :: rest) := by
        simp [quoted]
      rw [whole]
      simp [Lexeme.read?, Lexeme.string?, read, meaning]

/-! ## Lexemes -/

namespace Lexeme

/-- A lexeme is read in front of this text as it is written. -/
def Legible (lexeme : Lexeme) (rest : List Char) : Prop :=
  match lexeme with
  | number value => value.IsProper ∧ Numeral.Stops rest
  | _ => True

/-- No lexeme but a numeral starts with a digit or a minus sign. -/
theorem read?_of_number {first : Char} (begins : first.isDigit = true ∨ first = '-')
    (rest : List Char) : read? (first :: rest) = number? (first :: rest) := by
  unfold read?
  split
  iterate 10
    next same =>
      cases same
      exact absurd begins (by decide)
  rfl

theorem read?_number_append {numeral : Numeral} (proper : numeral.IsProper) {rest : List Char}
    (stops : Numeral.Stops rest) :
    read? (numeral.text ++ rest) = some (number numeral, rest) := by
  obtain ⟨first, others, written, begins⟩ := proper.exists_text
  have read := Numeral.read?_text_append proper stops
  rw [written, List.cons_append] at read ⊢
  rw [read?_of_number begins, number?, read]
  rfl

/-- A lexeme is read back in front of every text that does not prolong it. -/
theorem read?_text_append {lexeme : Lexeme} {rest : List Char} (legible : lexeme.Legible rest) :
    read? (lexeme.text ++ rest) = some (lexeme, rest) := by
  cases lexeme with
  | number value => exact read?_number_append legible.1 legible.2
  | string value => exact string?_append value rest
  | bool value => cases value <;> rfl
  | _ => rfl

end Lexeme

/-! ## Runs of lexemes -/

theorem lexemes?_blanks {blanks : List Char} (blank : Text.Blank blanks)
    (text : List Char) : lexemes? (blanks ++ text) = lexemes? text := by
  induction blanks with
  | nil => rfl
  | cons c blanks induction =>
      rw [List.cons_append, lexemes?, if_pos (blank c List.mem_cons_self)]
      exact induction fun c member => blank c (List.mem_cons_of_mem _ member)

theorem lexemes?_of_read? {c : Char} {text rest : List Char} {lexeme : Lexeme}
    (notBlank : Text.isBlank c = false) (read : Lexeme.read? (c :: text) = some (lexeme, rest)) :
    lexemes? (c :: text) = (lexemes? rest).map (lexeme :: ·) := by
  rw [lexemes?, if_neg (by simp [notBlank])]
  split
  · next found =>
      rw [read] at found
      cases found
      rfl
  · next found =>
      rw [read] at found
      cases found

end Json
end PipeQuery

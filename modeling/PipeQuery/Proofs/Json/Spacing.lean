import PipeQuery.Json.Reading
import PipeQuery.Proofs.Json.Lexeme

/-!
# Blanks between lexemes

The source of a lexeme is read alike in front of every text that does not prolong it, and in a data
text that is read no numeral has anything behind it that could.  So blanks between lexemes may be
added, left out and exchanged (`Json.read?_respaced`).
-/

namespace PipeQuery

/-- What is read is a source in front of the text, and it is read alike in front of every other text
that ends it. -/
def TakesSource {α : Type} (read? : List Char → Option (α × List Char))
    (ends : α → List Char → Prop) : Prop :=
  ∀ {text rest value}, read? text = some (value, rest) →
    ∃ source, text = source ++ rest ∧
      ∀ other, ends value other → read? (source ++ other) = some (value, other)

/-! ## Numerals -/

namespace Numeral

private theorem someDigits?_eq {text digits rest : List Char}
    (found : Decimal.someDigits? text = some (digits, rest)) :
    text = digits ++ rest ∧ digits ≠ [] ∧ ∀ c ∈ digits, c.isDigit = true := by
  simp only [Decimal.someDigits?, Option.ite_none_left_eq_some, Option.some.injEq] at found
  obtain ⟨nonempty, found⟩ := found
  have whole := Decimal.digits_append text
  have run : ∀ c ∈ (Decimal.digits text).1, c.isDigit = true :=
    fun c member => List.all_eq_true.mp List.all_takeWhile c member
  rw [found] at whole nonempty run
  exact ⟨whole.symm, by simpa using nonempty, run⟩

/-- A text that no digit goes on. -/
def EndsDigits (text : List Char) : Prop :=
  ∀ c ∈ text.head?, c.isDigit = false

private theorem takesSource_wholeDigits? :
    TakesSource wholeDigits? fun _ rest => EndsDigits rest := by
  intro text rest digits found
  unfold wholeDigits? at found
  split at found
  · cases found
    exact ⟨['0'], rfl, fun other _ => rfl⟩
  · next noZero =>
      obtain ⟨rfl, nonempty, isRun⟩ := someDigits?_eq found
      refine ⟨digits, rfl, fun other ends => ?_⟩
      have run := Decimal.someDigits?_append nonempty isRun ends
      obtain ⟨first, others, rfl⟩ := List.exists_cons_of_ne_nil nonempty
      unfold wholeDigits?
      split
      · next same =>
          cases same
          exact absurd rfl (noZero _)
      · exact run

/-- Decimals start with a point if they are there at all. -/
private theorem exists_source_decimals {text rest digits : List Char}
    (found : decimalDigits? text = some (digits, rest)) :
    ∃ source, text = source ++ rest ∧ (∀ c ∈ source.head?, c = '.') ∧
      ∀ other, (∀ c ∈ other.head?, c.isDigit = false ∧ c ≠ '.') →
        decimalDigits? (source ++ other) = some (digits, other) := by
  unfold decimalDigits? at found
  split at found
  · next behind =>
      obtain ⟨rfl, nonempty, isRun⟩ := someDigits?_eq found
      refine ⟨'.' :: digits, rfl, by simp, fun other ends => ?_⟩
      exact Decimal.someDigits?_append nonempty isRun fun c first => (ends c first).1
  · cases found
    refine ⟨[], rfl, by simp, fun other ends => ?_⟩
    rw [List.nil_append]
    unfold decimalDigits?
    split
    · exact absurd rfl (ends '.' rfl).2
    · rfl

/-- The digits behind an optional sign. -/
private theorem exists_source_sign {text digits rest : List Char}
    (found : Decimal.someDigits? (Decimal.sign text).2 = some (digits, rest)) :
    ∃ source, text = source ++ rest ∧ ∀ other, EndsDigits other →
      Decimal.sign (source ++ other) = ((Decimal.sign text).1, digits ++ other) ∧
        Decimal.someDigits? (digits ++ other) = some (digits, other) := by
  obtain ⟨split, nonempty, isRun⟩ := someDigits?_eq found
  have again : ∀ other, EndsDigits other →
      Decimal.someDigits? (digits ++ other) = some (digits, other) :=
    fun _ => Decimal.someDigits?_append nonempty isRun
  unfold Decimal.sign at split ⊢
  split at split
  · exact ⟨'-' :: digits, congrArg ('-' :: ·) split, fun other ends => ⟨rfl, again other ends⟩⟩
  · exact ⟨'+' :: digits, congrArg ('+' :: ·) split, fun other ends => ⟨rfl, again other ends⟩⟩
  · refine ⟨digits, split, fun other ends => ⟨?_, again other ends⟩⟩
    obtain ⟨first, others, rfl⟩ := List.exists_cons_of_ne_nil nonempty
    exact Decimal.sign_of_isDigit (isRun first List.mem_cons_self) (others ++ other)

/-- A text that does not prolong a numeral has no exponent in front. -/
private theorem exponentDigits?_of_stops {text : List Char} (stops : Stops text) :
    exponentDigits? text = some (none, text) := by
  cases text with
  | nil => rfl
  | cons c text =>
      obtain ⟨-, -, small, capital⟩ := stops c rfl
      exact if_neg (not_or.mpr ⟨small, capital⟩)

/-- An exponent starts with its letter if it is there at all. -/
private theorem exists_source_exponent {text rest : List Char}
    {exponent : Option (Bool × List Char)}
    (found : exponentDigits? text = some (exponent, rest)) :
    ∃ source, text = source ++ rest ∧ (∀ c ∈ source.head?, c = 'e' ∨ c = 'E') ∧
      ∀ other, Stops other → exponentDigits? (source ++ other) = some (exponent, other) := by
  unfold exponentDigits? at found
  split at found
  · next letter behind =>
      split at found
      · next isLetter =>
          obtain ⟨⟨digits, left⟩, run, made⟩ := Option.map_eq_some_iff.mp found
          obtain ⟨rfl, rfl⟩ : some ((Decimal.sign behind).1, digits) = exponent ∧ left = rest := by
            simpa using made
          obtain ⟨signed, rfl, again⟩ := exists_source_sign run
          refine ⟨letter :: signed, rfl, by simpa using isLetter, ?_⟩
          intro other stops
          obtain ⟨sign, more⟩ := again other fun c first => (stops c first).1
          simp [exponentDigits?, isLetter, sign, more]
      · cases found
        exact ⟨[], rfl, by simp, fun other => exponentDigits?_of_stops⟩
  · cases found
    exact ⟨[], rfl, by simp, fun other => exponentDigits?_of_stops⟩

theorem takesSource_readUnsigned? (negative : Bool) :
    TakesSource (readUnsigned? negative) fun _ rest => Stops rest := by
  intro text rest numeral found
  simp only [readUnsigned?, bind, Option.bind_eq_some_iff, pure, Option.some.injEq,
    Prod.mk.injEq] at found
  obtain ⟨⟨whole, behindWhole⟩, isWhole, ⟨decimals, behindDecimals⟩, areDecimals,
    ⟨exponent, behind⟩, isExponent, rfl, rfl⟩ := found
  obtain ⟨front, rfl, readFront⟩ := takesSource_wholeDigits? isWhole
  obtain ⟨middle, rfl, point, readMiddle⟩ := exists_source_decimals areDecimals
  obtain ⟨back, rfl, letter, readBack⟩ := exists_source_exponent isExponent
  refine ⟨front ++ (middle ++ back), by simp, fun other stops => ?_⟩
  have endsDecimals : ∀ c ∈ (back ++ other).head?, c.isDigit = false ∧ c ≠ '.' := by
    intro c first
    cases back with
    | nil => exact ⟨(stops c first).1, (stops c first).2.1⟩
    | cons letter' back =>
        cases first
        rcases letter c rfl with rfl | rfl <;> decide
  have endsWhole : EndsDigits (middle ++ (back ++ other)) := by
    intro c first
    cases middle with
    | nil => exact (endsDecimals c first).1
    | cons point' middle =>
        cases first
        rw [point c rfl]
        rfl
  simp [readUnsigned?, readFront _ endsWhole, readMiddle _ endsDecimals, readBack _ stops]

theorem takesSource_read? : TakesSource read? fun _ rest => Stops rest := by
  intro text rest numeral found
  unfold read? at found
  split at found
  · next behind =>
      obtain ⟨source, rfl, again⟩ := takesSource_readUnsigned? true found
      exact ⟨'-' :: source, rfl, again⟩
  · next noMinus =>
      obtain ⟨source, rfl, again⟩ := takesSource_readUnsigned? false found
      have shorter := length_rest_readUnsigned? found
      have nonempty : source ≠ [] := by
        rintro rfl
        exact absurd shorter (Nat.lt_irrefl _)
      obtain ⟨first, others, rfl⟩ := List.exists_cons_of_ne_nil nonempty
      refine ⟨first :: others, rfl, fun other stops => ?_⟩
      unfold read?
      split
      · next same =>
          cases same
          exact absurd rfl (noMinus _)
      · exact again other stops

/-- A numeral starts with a digit or a minus sign. -/
theorem exists_first_of_read? {text rest : List Char} {numeral : Numeral}
    (found : read? text = some (numeral, rest)) :
    ∃ first others, text = first :: others ∧ (first.isDigit = true ∨ first = '-') := by
  unfold read? at found
  split at found
  · exact ⟨'-', _, rfl, .inr rfl⟩
  · simp only [readUnsigned?, bind, Option.bind_eq_some_iff] at found
    obtain ⟨⟨whole, behind⟩, isWhole, -⟩ := found
    unfold wholeDigits? at isWhole
    split at isWhole
    · exact ⟨'0', _, rfl, .inl rfl⟩
    · obtain ⟨rfl, nonempty, isRun⟩ := someDigits?_eq isWhole
      obtain ⟨first, others, rfl⟩ := List.exists_cons_of_ne_nil nonempty
      exact ⟨first, others ++ behind, rfl, .inl (isRun first List.mem_cons_self)⟩

end Numeral

namespace Json

/-! ## Strings -/

private theorem units?_append {text rest : List Char} {units : List TextUnit}
    (found : units? text = some (units, rest)) :
    ∃ source, text = source ++ rest ∧
      ∀ other, units? (source ++ other) = some (units, other) := by
  fun_induction units? text generalizing units with
  | case1 => cases found
  | case2 =>
      cases found
      exact ⟨['"'], rfl, fun _ => rfl⟩
  | case3 a b c d behind induction =>
      simp only [bind, Option.bind_eq_some_iff, pure, Option.some.injEq, Prod.mk.injEq] at found
      obtain ⟨unit, isUnit, ⟨units', rest'⟩, found, rfl, rfl⟩ := found
      obtain ⟨source, rfl, again⟩ := induction found
      refine ⟨'\\' :: 'u' :: a :: b :: c :: d :: source, rfl, fun other => ?_⟩
      simp [units?, isUnit, again]
  | case4 c behind noUnit induction =>
      simp only [bind, Option.bind_eq_some_iff, pure, Option.some.injEq, Prod.mk.injEq] at found
      obtain ⟨character, isEscape, ⟨units', rest'⟩, found, rfl, rfl⟩ := found
      obtain ⟨source, rfl, again⟩ := induction found
      refine ⟨'\\' :: c :: source, rfl, fun other => ?_⟩
      have notCode : c ≠ 'u' := by
        rintro rfl
        cases isEscape
      rw [List.cons_append, List.cons_append, units?.eq_4, isEscape]
      · simp [again]
      · exact fun _ _ _ _ _ isCode => absurd isCode notCode
  | case5 => cases found
  | case6 c behind notQuote noUnit noEscape large induction =>
      simp only [bind, Option.bind_eq_some_iff, pure, Option.some.injEq, Prod.mk.injEq] at found
      obtain ⟨⟨units', rest'⟩, found, rfl, rfl⟩ := found
      obtain ⟨source, rfl, again⟩ := induction found
      refine ⟨c :: source, rfl, fun other => ?_⟩
      -- A backslash would need a character behind it, and then it would be an escape.
      have notEscape : c ≠ '\\' := by
        rintro rfl
        cases behind : source ++ rest' with
        | nil =>
            rw [behind] at found
            cases found
        | cons c' rest => exact noEscape c' rest rfl behind
      rw [List.cons_append, units?.eq_5 _ _ notQuote, if_neg large]
      · simp [again]
      · exact fun _ _ _ _ _ isEscape => absurd isEscape notEscape
      · exact fun _ _ isEscape => absurd isEscape notEscape

/-! ## Lexemes -/

namespace Lexeme

/-- A text in front of which this lexeme ends. -/
def Ends (lexeme : Lexeme) (rest : List Char) : Prop :=
  match lexeme with
  | number _ => Numeral.Stops rest
  | _ => True

theorem takesSource_read? : TakesSource read? Ends := by
  intro text rest lexeme found
  unfold read? at found
  split at found
  · cases found
    exact ⟨openBrace.text, rfl, fun _ _ => rfl⟩
  · cases found
    exact ⟨closeBrace.text, rfl, fun _ _ => rfl⟩
  · cases found
    exact ⟨openBracket.text, rfl, fun _ _ => rfl⟩
  · cases found
    exact ⟨closeBracket.text, rfl, fun _ _ => rfl⟩
  · cases found
    exact ⟨comma.text, rfl, fun _ _ => rfl⟩
  · cases found
    exact ⟨colon.text, rfl, fun _ _ => rfl⟩
  · cases found
    exact ⟨null.text, rfl, fun _ _ => rfl⟩
  · cases found
    exact ⟨(bool true).text, rfl, fun _ _ => rfl⟩
  · cases found
    exact ⟨(bool false).text, rfl, fun _ _ => rfl⟩
  · next behind =>
      simp only [string?, Option.map_eq_some_iff, Prod.mk.injEq] at found
      obtain ⟨⟨units, _⟩, read, rfl, rfl⟩ := found
      obtain ⟨source, rfl, again⟩ := units?_append read
      refine ⟨'"' :: source, rfl, fun other _ => ?_⟩
      simp [read?, string?, again]
  · simp only [number?, Option.map_eq_some_iff, Prod.mk.injEq] at found
    obtain ⟨⟨numeral, _⟩, read, rfl, rfl⟩ := found
    obtain ⟨source, rfl, again⟩ := Numeral.takesSource_read? read
    refine ⟨source, rfl, fun other stops => ?_⟩
    have read := again other stops
    obtain ⟨first, others, split, begins⟩ := Numeral.exists_first_of_read? read
    rw [split] at read ⊢
    rw [read?_of_number begins, number?, read]
    rfl

/-- No lexeme starts with a blank. -/
theorem isBlank_eq_false {c : Char} {text rest : List Char} {lexeme : Lexeme}
    (found : read? (c :: text) = some (lexeme, rest)) : Text.isBlank c = false := by
  refine Bool.eq_false_iff.mpr fun blank => ?_
  rcases Text.isBlank_iff.mp blank with rfl | rfl | rfl | rfl <;> cases found

end Lexeme

/-- Two texts with the same sources of lexemes, and any blanks in between. -/
inductive Respaced : List Char → List Char → Prop
  /-- Nothing is left but blanks. -/
  | blanks {blanks blanks' : List Char} (blank : Text.Blank blanks) (blank' : Text.Blank blanks') :
      Respaced blanks blanks'
  /-- A source stands behind blanks. -/
  | lexeme {blanks blanks' source rest rest' : List Char} {lexeme : Lexeme}
      (blank : Text.Blank blanks) (blank' : Text.Blank blanks')
      (read : Lexeme.read? (source ++ rest) = some (lexeme, rest)) (others : Respaced rest rest') :
      Respaced (blanks ++ (source ++ rest)) (blanks' ++ (source ++ rest'))

namespace Respaced

/-- Blanks may be put in front of both texts. -/
theorem front {blanks blanks' text text' : List Char} (blank : Text.Blank blanks)
    (blank' : Text.Blank blanks') (respaced : Respaced text text') :
    Respaced (blanks ++ text) (blanks' ++ text') := by
  have joined : ∀ {left right : List Char}, Text.Blank left → Text.Blank right →
      Text.Blank (left ++ right) := by
    intro left right blankLeft blankRight c member
    exact (List.mem_append.mp member).elim (blankLeft c) (blankRight c)
  cases respaced with
  | blanks behind behind' => exact .blanks (joined blank behind) (joined blank' behind')
  | lexeme behind behind' read others =>
      rw [← List.append_assoc blanks, ← List.append_assoc blanks']
      exact .lexeme (joined blank behind) (joined blank' behind') read others

/-- Every text of lexemes has its own spacing. -/
theorem refl {text : List Char} {lexemes : List Lexeme} (read : lexemes? text = some lexemes) :
    Respaced text text := by
  fun_induction lexemes? text generalizing lexemes with
  | case1 => exact .blanks Text.blank_nil Text.blank_nil
  | case2 c rest blank induction =>
      have front : Text.Blank [c] := by simpa [Text.Blank] using blank
      exact (induction read).front front front
  | case3 c text _ lexeme rest found induction =>
      obtain ⟨later, readRest, -⟩ := Option.map_eq_some_iff.mp read
      obtain ⟨source, split, -⟩ := Lexeme.takesSource_read? found
      rw [split] at found ⊢
      exact .lexeme Text.blank_nil Text.blank_nil found (induction readRest)
  | case4 => cases read

end Respaced

theorem lexemes?_blank {blanks : List Char} (blank : Text.Blank blanks) :
    lexemes? blanks = some [] := by
  have whole := lexemes?_blanks blank []
  rw [List.append_nil] at whole
  rw [whole, lexemes?]

/-- Blanks, and behind them a lexeme. -/
theorem lexemes?_append {blanks source rest : List Char} {lexeme : Lexeme}
    (blank : Text.Blank blanks)
    (read : Lexeme.read? (source ++ rest) = some (lexeme, rest)) :
    lexemes? (blanks ++ (source ++ rest)) = (lexemes? rest).map (lexeme :: ·) := by
  rw [lexemes?_blanks blank]
  cases whole : source ++ rest with
  | nil =>
      rw [whole] at read
      cases read
  | cons c text =>
      rw [whole] at read
      exact lexemes?_of_read? (Lexeme.isBlank_eq_false read) read

/-- A mark that can stand behind a value. -/
def Lexeme.FollowsValue (lexeme : Lexeme) : Prop :=
  lexeme = comma ∨ lexeme = closeBracket ∨ lexeme = closeBrace

/-- A text that goes on with such a mark, if at all, prolongs no numeral. -/
theorem stops_of_lexemes? {text : List Char} {lexemes : List Lexeme}
    (read : lexemes? text = some lexemes)
    (follows : ∀ lexeme ∈ lexemes.head?, lexeme.FollowsValue) : Numeral.Stops text := by
  cases text with
  | nil => exact Numeral.stops_nil
  | cons c text =>
      by_cases blank : Text.isBlank c = true
      · rcases Text.isBlank_iff.mp blank with rfl | rfl | rfl | rfl <;>
          refine Numeral.stops_cons ?_ ?_ ?_ _ <;> decide
      · rw [lexemes?, if_neg blank] at read
        split at read
        · next lexeme rest found =>
            obtain ⟨later, -, rfl⟩ := Option.map_eq_some_iff.mp read
            refine Numeral.stops_cons ?_ ?_ ⟨?_, ?_⟩ _
            · refine Bool.eq_false_iff.mpr fun isDigit => ?_
              rw [Lexeme.read?_of_number (.inl isDigit), Lexeme.number?,
                Option.map_eq_some_iff] at found
              obtain ⟨_, -, made⟩ := found
              cases made
              rcases follows _ rfl with same | same | same <;> cases same
            all_goals
              rintro rfl
              cases found
        · cases read

/-- Behind a value a separator is expected, or nothing. -/
private theorem expected_of_complete? {tree : Json} {unfinished : List Unfinished}
    {next : Progress} (completes : Progress.complete? tree unfinished = some next) :
    next.expected = .separator ∨ ∃ tree, next.expected = .nothing tree := by
  unfold Progress.complete? at completes
  split at completes <;> cases completes
  · exact .inr ⟨tree, rfl⟩
  · exact .inl rfl
  · exact .inl rfl

/-- Behind a numeral there comes such a mark, or nothing. -/
theorem followsValue_of_after? {progress next final : Progress} {numeral : Numeral}
    {lexemes : List Lexeme} (moves : progress.next? (.number numeral) = some next)
    (goesOn : next.after? lexemes = some final) :
    ∀ lexeme ∈ lexemes.head?, lexeme.FollowsValue := by
  have expected : next.expected = .separator ∨ ∃ tree, next.expected = .nothing tree := by
    obtain ⟨unfinished, expected⟩ := progress
    cases expected with
    | value closable => exact expected_of_complete? moves
    | _ => cases moves
  intro lexeme first
  obtain ⟨others, rfl⟩ := List.head?_eq_some_iff.mp first
  simp only [Progress.after?, List.foldlM_cons, bind, Option.bind_eq_some_iff] at goesOn
  obtain ⟨onward, moves, -⟩ := goesOn
  unfold Progress.next? at moves
  rcases expected with separator | ⟨tree, nothing⟩
  · rw [separator] at moves
    cases lexeme with
    | comma => exact .inl rfl
    | closeBracket => exact .inr (.inl rfl)
    | closeBrace => exact .inr (.inr rfl)
    | _ => cases moves
  · rw [nothing] at moves
    cases moves

/-- Other blanks leave the lexemes of a text as they are, as long as they make up a tree. -/
theorem lexemes?_respaced {text text' : List Char} (respaced : Respaced text text')
    {lexemes : List Lexeme} (read : lexemes? text = some lexemes) {progress final : Progress}
    (goesOn : progress.after? lexemes = some final) : lexemes? text' = some lexemes := by
  induction respaced generalizing lexemes progress with
  | blanks blank blank' =>
      rw [lexemes?_blank blank] at read
      rw [lexemes?_blank blank', read]
  | @lexeme blanks blanks' source rest rest' lexeme blank blank' found others induction =>
      rw [lexemes?_append blank found, Option.map_eq_some_iff] at read
      obtain ⟨later, read, rfl⟩ := read
      simp only [Progress.after?, List.foldlM_cons, bind, Option.bind_eq_some_iff] at goesOn
      obtain ⟨next, moves, goesOn⟩ := goesOn
      have onward := induction read goesOn
      obtain ⟨source', split, again⟩ := Lexeme.takesSource_read? found
      obtain rfl := List.append_cancel_right split
      have ends : lexeme.Ends rest' := by
        cases lexeme with
        | number numeral => exact stops_of_lexemes? onward (followsValue_of_after? moves goesOn)
        | _ => trivial
      rw [lexemes?_append blank' (again rest' ends), onward]
      rfl

/-- A text that is read is read alike with other blanks between its lexemes. -/
theorem read?_respaced {text text' : String} {tree : Json} (read : read? text = some tree)
    (respaced : Respaced text.toList text'.toList) : read? text' = some tree := by
  obtain ⟨lexemes, lexed, made⟩ := Option.bind_eq_some_iff.mp read
  obtain ⟨final, goesOn, -⟩ := Option.bind_eq_some_iff.mp made
  rw [read?, lexemes?_respaced respaced lexed goesOn]
  exact made

end Json
end PipeQuery

import PipeQuery.Proofs.Token.Relocation

/-!
# Tokens in front of another text

A token does not depend on what stands behind it, as long as that does not prolong it.  Hence a text
can be continued by another one: its own tokens stay, and behind them come those of the continuation
(`TokenStream.readFrom_append`).
-/

namespace PipeQuery

/-- A character that ends every word and every operator. -/
def Text.isBreak (c : Char) : Bool :=
  isBlank c || isPunctuation c

namespace Text

theorem isBreak_iff {c : Char} :
    isBreak c = true ↔ isBlank c = true ∨ isPunctuation c = true := by
  simp [isBreak]

theorem not_isWord_of_isBreak {c : Char} (breaks : isBreak c = true) : isWord c = false := by
  rcases isBreak_iff.mp breaks with blank | punctuation
  · simp [isWord, blank]
  · simp [isWord, punctuation]

theorem ne_equals_of_isBreak {c : Char} (breaks : isBreak c = true) : c ≠ '=' := by
  rintro rfl
  revert breaks
  decide

namespace Quoted

/-- What neither ends as an escape sign nor stands as one in front of a character is none. -/
theorem ne_escapeSign {c : Char} {rest : List Char} (notLast : c = '\\' → rest = [] → False)
    (notEscape : ∀ first others, c = '\\' → rest = first :: others → False) : c ≠ escapeSign := by
  rintro rfl
  cases rest with
  | nil => exact notLast rfl rfl
  | cons first others => exact notEscape first others rfl rfl

/-- A character that is no quote and no escape sign stands for itself. -/
theorem read_plain {c : Char} (notQuote : c ≠ quote) (notEscape : c ≠ escapeSign)
    (keepEscapes : Bool) (rest : List Char) :
    read keepEscapes (c :: rest) = (read keepEscapes rest).push [c] 1 := by
  rw [read]
  · exact notQuote
  · exact fun isEscape _ => notEscape isEscape
  · exact fun _ _ isEscape _ => notEscape isEscape

/-- A closed body is the same in front of any other text. -/
theorem exists_body_of_closed {keepEscapes : Bool} {text : List Char}
    (closed : (read keepEscapes text).closed = true) :
    ∃ body, text = body ++ (read keepEscapes text).rest ∧
      body.length = (read keepEscapes text).width ∧
      ∀ more, read keepEscapes (body ++ more) = { read keepEscapes text with rest := more } := by
  fun_induction read keepEscapes text with
  | case1 => cases closed
  | case2 rest => exact ⟨['"'], rfl, rfl, fun _ => rfl⟩
  | case3 => cases closed
  | case4 c rest induction =>
      obtain ⟨body, split, width, again⟩ := induction closed
      refine ⟨'\\' :: c :: body, ?_, ?_, ?_⟩
      · rw [List.cons_append, List.cons_append]
        exact congrArg (fun rest => '\\' :: c :: rest) split
      · simp [Body.push, width]
        omega
      · intro more
        rw [List.cons_append, List.cons_append, read, again more]
        rfl
  | case5 c rest notQuote notLast notEscape induction =>
      obtain ⟨body, split, width, again⟩ := induction closed
      refine ⟨c :: body, ?_, ?_, ?_⟩
      · rw [List.cons_append]
        exact congrArg (fun rest => c :: rest) split
      · simp [Body.push, width]
        omega
      · intro more
        rw [List.cons_append, read_plain notQuote (ne_escapeSign notLast notEscape), again more]
        rfl

end Quoted
end Text

namespace Scan

/-- The text `more` may stand behind a token in place of `rest`: it starts like `rest`, or with a
character that ends every token, or not at all. -/
def Replaces (rest more : List Char) : Prop :=
  ∀ c ∈ more.head?, Text.isBreak c = true ∨ rest.head? = some c

theorem Replaces.refl (rest : List Char) : Replaces rest rest :=
  fun _ first => .inr first

/-- What may replace the rest of a text may do so behind what both begin with. -/
theorem Replaces.append {rest more : List Char} (replaces : Replaces rest more)
    (front : List Char) : Replaces (front ++ rest) (front ++ more) := by
  cases front with
  | nil => exact replaces
  | cons c front => exact fun _ first => .inr first

/-- What a strict scan finds behind `offset` it finds, tolerant or not, in front of every text that
may replace the one it leaves. -/
def Resumes (scan : Bool → List Char → Scan) (offset : Nat) (text : List Char) : Prop :=
  ∃ front, text = front ++ (scan false text).rest ∧
    (scan false text).offset = offset + front.length ∧
    ∀ tolerant more, Replaces (scan false text).rest more →
      scan tolerant (front ++ more) = { scan false text with rest := more }

private theorem resumes_plain (kind : TokenKind) (value : List Char) (offset : Nat)
    (text : List Char) :
    Resumes (fun _ => plain kind value offset) (offset + value.length) text :=
  ⟨[], rfl, rfl, fun _ _ _ => rfl⟩

private theorem resumes_quoted {offset : Nat} {text : List Char} {token : Token}
    (made : (quoted false offset text).outcome = .ok (some token)) :
    Resumes (fun tolerant => quoted tolerant offset) offset text := by
  have closed : (Text.Quoted.read false text).closed = true := by
    cases unclosed : (Text.Quoted.read false text).closed with
    | true => rfl
    | false => simp [quoted, unclosed] at made
  obtain ⟨body, split, width, again⟩ := Text.Quoted.exists_body_of_closed closed
  refine ⟨body, split, ?_, ?_⟩
  · simp [quoted, width]
  · intro tolerant more _
    simp [quoted, again more, closed]

private theorem resumes_comparison (offset : Nat) (c : Char) (text : List Char) :
    Resumes (fun _ => comparison offset c) (offset + 1) text := by
  by_cases absorbed : Text.absorbsEquals c = true ∧ text.head? = some '='
  · obtain ⟨absorbs, first⟩ := absorbed
    obtain ⟨rest, rfl⟩ := List.head?_eq_some_iff.mp first
    refine ⟨['='], ?_, ?_, ?_⟩
    · simp [comparison, absorbs, plain]
    · simp [comparison, absorbs, plain]
    · intro _ more _
      simp [comparison, absorbs, plain]
  · -- Nothing is absorbed here, and nothing in a text that replaces this one.
    have alone : ∀ more, Replaces text more →
        comparison offset c more = plain .operator [c] offset more := by
      intro more replaces
      unfold comparison
      split
      · next rest =>
          rcases replaces '=' rfl with breaks | same
          · exact absurd rfl (Text.ne_equals_of_isBreak breaks)
          · rw [if_neg fun absorbs => absorbed ⟨absorbs, same⟩]
      · rfl
    have here := alone text fun c first => .inr first
    refine ⟨[], ?_, ?_, ?_⟩
    · simp only [here]
      rfl
    · simp only [here]
      rfl
    · intro _ more replaces
      simp only [here] at replaces ⊢
      exact alone more replaces

private theorem resumes_word (offset : Nat) (c : Char) (text : List Char) :
    Resumes (fun _ => word offset c) (offset + 1) text := by
  refine ⟨text.takeWhile Text.isWord, ?_, ?_, ?_⟩
  · exact (List.takeWhile_append_dropWhile).symm
  · simp [word, plain]
    omega
  · intro _ more replaces
    have inside : ∀ c ∈ text.takeWhile Text.isWord, Text.isWord c = true :=
      List.all_eq_true.mp List.all_takeWhile
    have outside : ∀ c ∈ more.head?, Text.isWord c = false := by
      intro c first
      rcases replaces c first with breaks | same
      · exact Text.not_isWord_of_isBreak breaks
      · exact Text.stops_dropWhile Text.isWord text c same
    simp only [word, Text.takeWhile_append_of_stop inside outside,
      Text.dropWhile_append_of_stop inside outside]
    rfl

private theorem resumes_begin {offset : Nat} {c : Char} {text : List Char} {token : Token}
    (made : (begin false offset c text).outcome = .ok (some token)) :
    Resumes (fun tolerant => begin tolerant offset c) (offset + 1) text := by
  unfold begin at made ⊢
  split at made
  iterate 4 exact resumes_plain ..
  · exact resumes_quoted made
  · split at made
    · next comparable =>
        simp only [comparable, if_true]
        exact resumes_comparison ..
    · next notComparable =>
        split at made
        · cases made
        · next notControl =>
            simp only [notComparable, notControl, Bool.false_eq_true, if_false]
            exact resumes_word ..

private theorem resumes_scan {offset : Nat} {text : List Char} {token : Token}
    (made : (Token.scan false offset text).outcome = .ok (some token)) :
    Resumes (fun tolerant => Token.scan tolerant offset) offset text := by
  induction text generalizing offset with
  | nil => cases made
  | cons c rest induction =>
      rw [Token.scan] at made
      split at made
      · next blank =>
          obtain ⟨front, split, width, again⟩ := induction made
          refine ⟨c :: front, ?_, ?_, ?_⟩
          · simp only [Token.scan, blank, if_true, List.cons_append]
            exact congrArg (c :: ·) split
          · simp only [Token.scan, blank, if_true, List.length_cons] at width ⊢
            omega
          · intro tolerant more replaces
            simp only [Token.scan, blank, if_true, List.cons_append] at replaces ⊢
            exact again tolerant more replaces
      · next notBlank =>
          obtain ⟨front, split, width, again⟩ := resumes_begin made
          refine ⟨c :: front, ?_, ?_, ?_⟩
          · simp only [Token.scan, notBlank, Bool.false_eq_true, if_false, List.cons_append]
            exact congrArg (c :: ·) split
          · simp only [Token.scan, notBlank, Bool.false_eq_true, if_false,
              List.length_cons] at width ⊢
            omega
          · intro tolerant more replaces
            simp only [Token.scan, notBlank, Bool.false_eq_true, if_false,
              List.cons_append] at replaces ⊢
            exact again tolerant more replaces

/-- A token is the same in front of every text that may replace the one behind it. -/
theorem exists_front_of_scan {offset : Nat} {text : List Char} {token : Token}
    (made : (Token.scan false offset text).outcome = .ok (some token)) :
    ∃ front, text = front ++ (Token.scan false offset text).rest ∧
      (Token.scan false offset text).offset = offset + front.length ∧
      ∀ tolerant more, Replaces (Token.scan false offset text).rest more →
        Token.scan tolerant offset (front ++ more) =
          { outcome := .ok (some token)
            offset := (Token.scan false offset text).offset
            rest := more } := by
  obtain ⟨front, split, width, again⟩ := resumes_scan made
  refine ⟨front, split, width, ?_⟩
  intro tolerant more replaces
  rw [← made]
  exact again tolerant more replaces

/-- A character that is no blank begins something. -/
theorem begin_ne_end (tolerant : Bool) (offset : Nat) (c : Char) (rest : List Char) :
    (begin tolerant offset c rest).outcome ≠ .ok none := by
  unfold begin
  split
  iterate 4 simp [plain]
  · simp only [quoted]
    split <;> simp
  · split
    · unfold comparison
      split
      · split <;> simp [plain]
      · simp [plain]
    · split <;> simp [word, plain]

/-- Where a scan finds the end there are only blanks. -/
theorem blank_of_end {tolerant : Bool} {offset : Nat} {text : List Char}
    (ended : (Token.scan tolerant offset text).outcome = .ok none) : Text.Blank text := by
  induction text generalizing offset with
  | nil => exact Text.blank_nil
  | cons c rest induction =>
      rw [Token.scan] at ended
      split at ended
      · next isBlank => exact List.forall_mem_cons.mpr ⟨isBlank, induction ended⟩
      · exact absurd ended (begin_ne_end tolerant offset c rest)

/-- A scan passes over blanks. -/
theorem scan_append_of_blank {blanks : List Char} (blank : Text.Blank blanks) (tolerant : Bool)
    (offset : Nat) (text : List Char) :
    Token.scan tolerant offset (blanks ++ text) =
      Token.scan tolerant (offset + blanks.length) text := by
  induction blanks generalizing offset with
  | nil => rfl
  | cons c blanks induction =>
      obtain ⟨isBlank, others⟩ := List.forall_mem_cons.mp blank
      rw [List.cons_append, Token.scan, if_pos isBlank, induction others, List.length_cons,
        Nat.add_assoc, Nat.add_comm 1]

end Scan

namespace TokenStream

/-- Put tokens in front. -/
def prepend (tokens : List Token) (stream : TokenStream) : TokenStream :=
  { stream with tokens := tokens ++ stream.tokens }

private theorem readFrom_congr {tolerant : Bool} {offset offset' : Nat} {text text' : List Char}
    (same : Token.scan tolerant offset text = Token.scan tolerant offset' text') :
    readFrom tolerant offset text = readFrom tolerant offset' text' := by
  cases outcome : (Token.scan tolerant offset' text').outcome with
  | ok token? =>
      cases token? with
      | some token =>
          rw [readFrom_of_token outcome, readFrom_of_token (by rw [same, outcome]), same]
      | none => rw [readFrom_of_end outcome, readFrom_of_end (by rw [same, outcome])]
  | error fault => rw [readFrom_of_fault outcome, readFrom_of_fault (by rw [same, outcome])]

/-- Blanks in front of a text only move it. -/
theorem readFrom_append_of_blank {blanks : List Char} (blank : Text.Blank blanks)
    (tolerant : Bool) (offset : Nat) (text : List Char) :
    readFrom tolerant offset (blanks ++ text) =
      readFrom tolerant (offset + blanks.length) text :=
  readFrom_congr (Scan.scan_append_of_blank blank tolerant offset text)

theorem readFrom_blank {c : Char} (blank : Text.isBlank c = true) (tolerant : Bool) (offset : Nat)
    (text : List Char) :
    readFrom tolerant offset (c :: text) = readFrom tolerant (offset + 1) text :=
  readFrom_append_of_blank (List.forall_mem_singleton.mpr blank) tolerant offset text

/-- A text without fault, continued by one that starts apart from it, has its own tokens and then
those of the continuation. -/
theorem readFrom_append {offset : Nat} {text more : List Char} (tolerant : Bool)
    (whole : (readFrom false offset text).fault = none)
    (apart : ∀ c ∈ more.head?, Text.isBreak c = true) :
    readFrom tolerant offset (text ++ more) =
      (readFrom tolerant (offset + text.length) more).prepend
        (readFrom false offset text).tokens := by
  fun_induction readFrom false offset text with
  | case1 offset text token made induction =>
      obtain ⟨front, split, width, again⟩ := Scan.exists_front_of_scan made
      have replaces : Scan.Replaces (Token.scan false offset text).rest
          ((Token.scan false offset text).rest ++ more) := by
        intro c first
        cases left : (Token.scan false offset text).rest with
        | nil =>
            rw [left, List.nil_append] at first
            exact .inl (apart c first)
        | cons c' others =>
            rw [left] at first
            exact .inr first
      have joined : text ++ more = front ++ ((Token.scan false offset text).rest ++ more) := by
        rw [← List.append_assoc, ← split]
      have scanned := again tolerant _ replaces
      rw [← joined] at scanned
      have counted := Scan.offset_add_length_rest false offset text
      rw [readFrom_of_token (by rw [scanned]), scanned, induction whole, counted]
      rfl
  | case2 offset text ended =>
      rw [readFrom_append_of_blank (Scan.blank_of_end ended)]
      rfl
  | case3 => cases whole

/-- A text without fault, continued behind a space. -/
theorem readFrom_append_space {offset : Nat} {text : List Char} (tolerant : Bool)
    (whole : (readFrom false offset text).fault = none) (more : List Char) :
    readFrom tolerant offset (text ++ ' ' :: more) =
      (readFrom tolerant (offset + text.length + 1) more).prepend
        (readFrom false offset text).tokens := by
  have apart : ∀ c ∈ (' ' :: more).head?, Text.isBreak c = true := by
    rintro c ⟨⟩
    rfl
  rw [readFrom_append tolerant whole apart, readFrom_blank rfl]

end TokenStream
end PipeQuery

import PipeQuery.Proofs.Token.Cut
import PipeQuery.Proofs.Token.Iteration

/-!
# Tokens and the characters they are read from

A token stands for the characters of its source, and its source is the longest that it can be.  A
text without fault falls into blanks and the sources of its tokens, in turn, and there is no other
way to part it (`TokenStream.readFrom_eq_iff`): reading loses no character and invents none.
-/

namespace PipeQuery

/-- A word: word characters, the first of which is no quote. -/
structure Text.IsWord (word : String) : Prop where
  /-- There is a character. -/
  nonempty : word.toList ≠ []
  /-- A quote in front would begin a quoted text. -/
  unquoted : word.toList.head? ≠ some '"'
  /-- Nothing in it ends it. -/
  characters : ∀ c ∈ word.toList, Text.isWord c = true

instance (word : String) : Decidable (Text.IsWord word) :=
  decidable_of_iff
    (word.toList ≠ [] ∧ word.toList.head? ≠ some '"' ∧ word.toList.all Text.isWord = true)
    ⟨fun ⟨nonempty, unquoted, characters⟩ =>
        ⟨nonempty, unquoted, List.all_eq_true.mp characters⟩,
      fun isWord =>
        ⟨isWord.nonempty, isWord.unquoted, List.all_eq_true.mpr isWord.characters⟩⟩

/-- The operators. -/
def Spells.operators : List String := ["=", "==", ">", ">=", "<", "<=", "~"]

/-! ## Bodies of quoted texts -/

namespace Text.Quoted

/-- The second text is what the first one stands for as a body: a character behind an escape sign
stands for itself, and no quote stands without one. -/
inductive Means : List Char → List Char → Prop where
  | nil : Means [] []
  | escaped (c : Char) {body value : List Char} (means : Means body value) :
      Means (escapeSign :: c :: body) (c :: value)
  | plain {c : Char} {body value : List Char} (notQuote : c ≠ quote) (notEscape : c ≠ escapeSign)
      (means : Means body value) : Means (c :: body) (c :: value)

/-- What is written stands for what it was written for. -/
theorem means_write (value : List Char) : Means (write value) value := by
  induction value with
  | nil => exact .nil
  | cons c value induction =>
      rw [write]
      split
      · exact .escaped c induction
      · next plain =>
          obtain ⟨notQuote, notEscape⟩ := not_or.mp plain
          exact .plain notQuote notEscape induction

/-- A closed body is read to its closing quote. -/
theorem exists_means_of_closed {text : List Char} (closed : (read false text).closed = true) :
    ∃ body, text = body ++ quote :: (read false text).rest ∧
      (read false text).width = body.length + 1 ∧ Means body (read false text).value := by
  fun_induction read false text with
  | case1 => cases closed
  | case2 rest => exact ⟨[], rfl, rfl, .nil⟩
  | case3 => cases closed
  | case4 c rest induction =>
      obtain ⟨body, split, width, means⟩ := induction closed
      refine ⟨'\\' :: c :: body, ?_, ?_, .escaped c means⟩
      · exact congrArg ('\\' :: c :: ·) split
      · simp only [Body.push, width, List.length_cons]
        omega
  | case5 c rest notQuote notLast notEscape induction =>
      obtain ⟨body, split, width, means⟩ := induction closed
      refine ⟨c :: body, ?_, ?_, .plain notQuote (ne_escapeSign notLast notEscape) means⟩
      · exact congrArg (c :: ·) split
      · simp only [Body.push, width, List.length_cons]
        omega

/-- A body is passed over in front of any text, be that closed or not. -/
theorem read_append {body value : List Char} (means : Means body value) (keepEscapes : Bool)
    (text : List Char) :
    read keepEscapes (body ++ text) =
      (read keepEscapes text).push (if keepEscapes then body else value) body.length := by
  induction means with
  | nil => simp [Body.push]
  | escaped c means induction =>
      change (read keepEscapes (_ ++ text)).push (if keepEscapes then ['\\', c] else [c]) 2 = _
      rw [induction]
      cases keepEscapes <;> simp [Body.push, escapeSign] <;> omega
  | plain notQuote notEscape means induction =>
      rw [List.cons_append, read_plain notQuote notEscape, induction]
      cases keepEscapes <;> simp [Body.push] <;> omega

/-- A body is read as what it stands for. -/
theorem read_append_of_means {body value : List Char} (means : Means body value)
    (rest : List Char) :
    read false (body ++ quote :: rest) =
      { value, width := body.length + 1, closed := true, rest } := by
  rw [read_append means]
  simp [Body.push, read, quote]

end Text.Quoted

/-! ## Sources -/

namespace Token

/-- The marks and their kinds. -/
def marks : List (Char × TokenKind) :=
  [('|', .pipe), ('(', .openParen), (')', .closeParen), (',', .comma)]

/-- The token has the given source, which starts at `offset` and stands in front of `rest`. -/
inductive HasSource (offset : Nat) (rest : List Char) : Token → List Char → Prop where
  | mark {c : Char} {kind : TokenKind} (isMark : (c, kind) ∈ marks) :
      HasSource offset rest { kind, value := String.ofList [c], pos := offset } [c]
  | operator {operator : String} (isOperator : operator ∈ Spells.operators)
      (longest : operator ∈ ["=", ">", "<"] → rest.head? ≠ some '=') :
      HasSource offset rest { kind := .operator, value := operator, pos := offset }
        operator.toList
  | word {word : String} (isWord : Text.IsWord word)
      (longest : ∀ c ∈ rest.head?, Text.isWord c = false) :
      HasSource offset rest { kind := .ident, value := word, pos := offset } word.toList
  | quoted {body value : List Char} (means : Text.Quoted.Means body value) :
      HasSource offset rest { kind := .string, value := String.ofList value, pos := offset + 1 }
        (Text.Quoted.quote :: (body ++ [Text.Quoted.quote]))

end Token

namespace Scan

/-- The scan takes the source of the token in front of `text`. -/
private def Takes (offset : Nat) (text : List Char) (scan : Scan) (token : Token) : Prop :=
  ∃ source, text = source ++ scan.rest ∧ scan.offset = offset + source.length ∧
    token.HasSource offset scan.rest source

private theorem takes_mark {c : Char} {kind : TokenKind} {offset : Nat} {rest : List Char}
    {token : Token} (isMark : (c, kind) ∈ Token.marks)
    (made : (plain kind [c] offset rest).outcome = .ok (some token)) :
    Takes offset (c :: rest) (plain kind [c] offset rest) token := by
  cases made
  exact ⟨[c], rfl, rfl, .mark isMark⟩

private theorem takes_operator {c : Char} {more rest : List Char} {offset : Nat} {token : Token}
    (isOperator : String.ofList (c :: more) ∈ Spells.operators)
    (longest : String.ofList (c :: more) ∈ ["=", ">", "<"] → rest.head? ≠ some '=')
    (made : (plain .operator (c :: more) offset rest).outcome = .ok (some token)) :
    Takes offset (c :: (more ++ rest)) (plain .operator (c :: more) offset rest) token := by
  cases made
  have hasSource : Token.HasSource offset rest _ _ := .operator isOperator longest
  rw [String.toList_ofList] at hasSource
  exact ⟨c :: more, rfl, rfl, hasSource⟩

private theorem takes_comparison {c : Char} {offset : Nat} {rest : List Char} {token : Token}
    (comparable : Text.isComparison c = true)
    (made : (comparison offset c rest).outcome = .ok (some token)) :
    Takes offset (c :: rest) (comparison offset c rest) token := by
  have isOperator : String.ofList [c] ∈ Spells.operators := by
    rcases Text.isComparison_iff.mp comparable with rfl | rfl | rfl | rfl <;> decide
  have absorbs : String.ofList [c] ∈ ["=", ">", "<"] → Text.absorbsEquals c = true := by
    rcases Text.isComparison_iff.mp comparable with rfl | rfl | rfl | rfl <;> decide
  unfold comparison at made ⊢
  split at made
  · next rest =>
      split at made
      · next absorbed =>
          have isOperator : String.ofList [c, '='] ∈ Spells.operators := by
            rcases Text.isComparison_iff.mp comparable with rfl | rfl | rfl | rfl
            iterate 3 decide
            cases absorbed
          have notAlone : String.ofList [c, '='] ∉ ["=", ">", "<"] := by
            rcases Text.isComparison_iff.mp comparable with rfl | rfl | rfl | rfl <;> decide
          rw [if_pos absorbed]
          exact takes_operator isOperator (fun alone => absurd alone notAlone) made
      · next refused =>
          rw [if_neg refused]
          exact takes_operator isOperator (fun alone => absurd (absorbs alone) refused) made
  · next noEquals =>
      refine takes_operator isOperator (fun _ first => ?_) made
      obtain ⟨others, rfl⟩ := List.head?_eq_some_iff.mp first
      exact noEquals others rfl

private theorem takes_word {c : Char} {offset : Nat} {rest : List Char} {token : Token}
    (isWord : Text.isWord c = true) (notQuote : c ≠ '"')
    (made : (word offset c rest).outcome = .ok (some token)) :
    Takes offset (c :: rest) (word offset c rest) token := by
  cases made
  have whole : Text.IsWord (String.ofList (c :: rest.takeWhile Text.isWord)) := by
    constructor <;> rw [String.toList_ofList]
    · exact List.cons_ne_nil _ _
    · simpa using notQuote
    · exact List.forall_mem_cons.mpr ⟨isWord, List.all_eq_true.mp List.all_takeWhile⟩
  have hasSource : Token.HasSource offset _ _ _ :=
    .word whole (Text.stops_dropWhile Text.isWord rest)
  rw [String.toList_ofList] at hasSource
  exact ⟨_, congrArg (c :: ·) List.takeWhile_append_dropWhile.symm, rfl, hasSource⟩

private theorem takes_quoted {offset : Nat} {rest : List Char} {token : Token}
    (made : (quoted false (offset + 1) rest).outcome = .ok (some token)) :
    Takes offset ('"' :: rest) (quoted false (offset + 1) rest) token := by
  simp only [quoted, Bool.or_false] at made
  split at made
  · next closed =>
      cases made
      obtain ⟨body, split, width, means⟩ := Text.Quoted.exists_means_of_closed closed
      refine ⟨_, ?_, ?_, .quoted means⟩
      · simp only [quoted, List.cons_append, List.append_assoc, List.nil_append]
        exact congrArg ('"' :: ·) split
      · simp only [quoted, width, List.length_cons, List.length_append, List.length_nil]
        omega
  · cases made

private theorem takes_begin {c : Char} {offset : Nat} {rest : List Char} {token : Token}
    (notBlank : Text.isBlank c = false)
    (made : (begin false offset c rest).outcome = .ok (some token)) :
    Takes offset (c :: rest) (begin false offset c rest) token := by
  unfold begin at made ⊢
  split at made
  iterate 4 exact takes_mark (by decide) made
  · exact takes_quoted made
  · next notPipe notOpen notClose notComma notQuote =>
      split at made
      · next comparable =>
          rw [if_pos comparable]
          exact takes_comparison comparable made
      · next notComparison =>
          rw [if_neg notComparison]
          split at made
          · cases made
          · next notControl =>
              rw [if_neg notControl]
              refine takes_word (Text.isWord_iff.mpr ⟨notBlank, ?_, ?_, ?_⟩) notQuote made
              · simp_all [Text.isPunctuation]
              · simpa using notComparison
              · simpa using notControl

/-- A scan passes over blanks and takes the source of its token. -/
theorem exists_source_of_scan {offset : Nat} {text : List Char} {token : Token}
    (made : (Token.scan false offset text).outcome = .ok (some token)) :
    ∃ blanks source, Text.Blank blanks ∧
      text = blanks ++ (source ++ (Token.scan false offset text).rest) ∧
      (Token.scan false offset text).offset = offset + blanks.length + source.length ∧
      token.HasSource (offset + blanks.length) (Token.scan false offset text).rest source := by
  induction text generalizing offset with
  | nil => cases made
  | cons c rest induction =>
      rw [Token.scan] at made ⊢
      split at made
      · next isBlank =>
          rw [if_pos isBlank]
          obtain ⟨blanks, source, blank, split, stop, hasSource⟩ := induction made
          refine ⟨c :: blanks, source, ?_, ?_, ?_, ?_⟩
          · exact List.forall_mem_cons.mpr ⟨isBlank, blank⟩
          · exact congrArg (c :: ·) split
          · rw [stop, List.length_cons]
            omega
          · rw [List.length_cons, ← Nat.add_assoc, Nat.add_right_comm]
            exact hasSource
      · next notBlank =>
          rw [if_neg notBlank]
          obtain ⟨source, split, stop, hasSource⟩ :=
            takes_begin (Bool.eq_false_iff.mpr notBlank) made
          exact ⟨[], source, Text.blank_nil, split, stop, hasSource⟩

private theorem begin_word {c : Char} {others rest : List Char}
    (isWord : Text.IsWord (String.ofList (c :: others)))
    (longest : ∀ c ∈ rest.head?, Text.isWord c = false) (tolerant : Bool) (offset : Nat) :
    Text.isBlank c = false ∧ begin tolerant offset c (others ++ rest) =
      plain .ident (c :: others) offset rest := by
  obtain ⟨-, unquoted, characters⟩ := isWord
  rw [String.toList_ofList] at unquoted characters
  obtain ⟨first, inside⟩ := List.forall_mem_cons.mp characters
  obtain ⟨notBlank, notMark, notComparison, notControl⟩ := Text.isWord_iff.mp first
  refine ⟨notBlank, ?_⟩
  unfold begin
  split
  iterate 4 cases notMark
  · exact absurd rfl unquoted
  · simp [notComparison, notControl, word, Text.takeWhile_append_of_stop inside longest,
      Text.dropWhile_append_of_stop inside longest]

private theorem comparison_alone {c : Char} {rest : List Char}
    (longest : Text.absorbsEquals c = true → rest.head? ≠ some '=') (offset : Nat) :
    comparison offset c rest = plain .operator [c] offset rest := by
  unfold comparison
  split
  · exact if_neg fun absorbs => longest absorbs rfl
  · rfl

/-- In front of the text behind its source a token is read from it. -/
theorem exists_begin_of_hasSource {token : Token} {source rest : List Char} {offset : Nat}
    (hasSource : token.HasSource offset rest source) (tolerant : Bool) :
    ∃ c others, source = c :: others ∧ Text.isBlank c = false ∧
      begin tolerant offset c (others ++ rest) =
        { outcome := .ok (some token), offset := offset + source.length, rest } := by
  cases hasSource with
  | mark isMark =>
      simp only [Token.marks, List.mem_cons, Prod.mk.injEq, List.not_mem_nil, or_false] at isMark
      rcases isMark with ⟨rfl, rfl⟩ | ⟨rfl, rfl⟩ | ⟨rfl, rfl⟩ | ⟨rfl, rfl⟩ <;>
        exact ⟨_, [], rfl, rfl, rfl⟩
  | @operator operator isOperator longest =>
      simp only [Spells.operators, List.mem_cons, List.not_mem_nil, or_false] at isOperator
      rcases isOperator with rfl | rfl | rfl | rfl | rfl | rfl | rfl
      · exact ⟨'=', [], rfl, rfl, comparison_alone (fun _ => longest (by decide)) offset⟩
      · exact ⟨'=', ['='], rfl, rfl, rfl⟩
      · exact ⟨'>', [], rfl, rfl, comparison_alone (fun _ => longest (by decide)) offset⟩
      · exact ⟨'>', ['='], rfl, rfl, rfl⟩
      · exact ⟨'<', [], rfl, rfl, comparison_alone (fun _ => longest (by decide)) offset⟩
      · exact ⟨'<', ['='], rfl, rfl, rfl⟩
      · exact ⟨'~', [], rfl, rfl,
          comparison_alone (fun absorbs => absurd absorbs (by decide)) offset⟩
  | @word word isWord longest =>
      obtain ⟨c, others, split⟩ := List.exists_cons_of_ne_nil isWord.nonempty
      obtain rfl : word = String.ofList (c :: others) := by rw [← split, String.ofList_toList]
      obtain ⟨notBlank, begun⟩ := begin_word isWord longest tolerant offset
      exact ⟨c, others, split, notBlank, by rw [begun, split]; rfl⟩
  | @quoted body value means =>
      refine ⟨_, _, rfl, rfl, ?_⟩
      have read := Text.Quoted.read_append_of_means means rest
      change quoted tolerant (offset + 1) _ = _
      simp [quoted, read]
      omega

theorem scan_of_hasSource {blanks source rest : List Char} {token : Token} {offset : Nat}
    (blank : Text.Blank blanks) (hasSource : token.HasSource (offset + blanks.length) rest source)
    (tolerant : Bool) :
    Token.scan tolerant offset (blanks ++ (source ++ rest)) =
      { outcome := .ok (some token), offset := offset + blanks.length + source.length, rest } := by
  obtain ⟨c, others, split, notBlank, begun⟩ := exists_begin_of_hasSource hasSource tolerant
  rw [scan_append_of_blank blank, split, List.cons_append, Token.scan, notBlank,
    if_neg Bool.false_ne_true, begun, split]

end Scan

/-- A text from `offset` on is blanks and the sources of these tokens, in turn. -/
inductive LaidOut : Nat → List Char → List Token → Prop where
  | blanks {offset : Nat} {blanks : List Char} (blank : Text.Blank blanks) :
      LaidOut offset blanks []
  | token {offset : Nat} {blanks source rest : List Char} {token : Token} {tokens : List Token}
      (blank : Text.Blank blanks) (hasSource : token.HasSource (offset + blanks.length) rest source)
      (later : LaidOut (offset + blanks.length + source.length) rest tokens) :
      LaidOut offset (blanks ++ (source ++ rest)) (token :: tokens)

namespace TokenStream

/-- A text without fault is laid out in its tokens. -/
theorem laidOut_readFrom {offset : Nat} {text : List Char}
    (whole : (readFrom false offset text).fault = none) :
    LaidOut offset text (readFrom false offset text).tokens := by
  fun_induction readFrom false offset text with
  | case1 offset text token made induction =>
      obtain ⟨blanks, source, blank, split, stop, hasSource⟩ := Scan.exists_source_of_scan made
      have later := induction whole
      rw [stop] at later
      have laidOut := LaidOut.token blank hasSource later
      rw [← split, ← stop] at laidOut
      exact laidOut
  | case2 offset text ended => exact .blanks (Scan.blank_of_end ended)
  | case3 => cases whole

/-- A text is read as the tokens in which it is laid out, by a tolerant reading as well. -/
theorem readFrom_of_laidOut {offset : Nat} {text : List Char} {tokens : List Token}
    (laidOut : LaidOut offset text tokens) (tolerant : Bool) :
    readFrom tolerant offset text = { tokens, fault := none } := by
  induction laidOut with
  | @blanks offset blanks blank =>
      have passed := Scan.scan_append_of_blank blank tolerant offset []
      rw [List.append_nil] at passed
      exact readFrom_of_end (by rw [passed]; rfl)
  | token blank hasSource later induction =>
      have scanned := Scan.scan_of_hasSource blank hasSource tolerant
      rw [readFrom_of_token (by rw [scanned]), scanned, induction]
      rfl

/-- The tokens of a text are those in which it is laid out. -/
theorem readFrom_eq_iff {offset : Nat} {text : List Char} {tokens : List Token} :
    readFrom false offset text = { tokens, fault := none } ↔ LaidOut offset text tokens := by
  constructor
  · intro read
    have whole : (readFrom false offset text).fault = none := by rw [read]
    have laidOut := laidOut_readFrom whole
    rwa [read] at laidOut
  · exact fun laidOut => readFrom_of_laidOut laidOut false

end TokenStream

namespace TokenReader

/-- A text over which a strict reader iterates without fault is laid out in the tokens it takes,
which stand in increasing order within the text. -/
theorem laidOut_of_drain {text : String} (whole : (ofText text).drain.2.1 = none) :
    LaidOut 0 text.toList (ofText text).drain.1 ∧
      (ofText text).drain.1.Pairwise (·.pos < ·.pos) ∧
      ∀ token ∈ (ofText text).drain.1, token.pos < text.toList.length := by
  obtain ⟨sameTokens, sameFault⟩ := drain_ofText text
  rw [sameFault] at whole
  rw [sameTokens]
  refine ⟨TokenStream.laidOut_readFrom whole, TokenStream.pairwise_readFrom 0 _, ?_⟩
  intro token member
  have within := TokenStream.pos_lt_of_mem_readFrom member
  rwa [Nat.zero_add] at within

/-- An operator at a word and an escaped quote. -/
theorem laidOut_of_drain_glued :
    (ofText "tags>=\"a\\\"b\" |(x").drain.1 =
      [{ kind := .ident, value := "tags", pos := 0 },
        { kind := .operator, value := ">=", pos := 4 },
        { kind := .string, value := "a\"b", pos := 7 },
        { kind := .pipe, value := "|", pos := 13 },
        { kind := .openParen, value := "(", pos := 14 },
        { kind := .ident, value := "x", pos := 15 }] ∧
    LaidOut 0 "tags>=\"a\\\"b\" |(x".toList (ofText "tags>=\"a\\\"b\" |(x").drain.1 ∧
    (ofText "tags>=\"a\\\"b\" |(x").drain.1.Pairwise (·.pos < ·.pos) ∧
    ∀ token ∈ (ofText "tags>=\"a\\\"b\" |(x").drain.1,
      token.pos < "tags>=\"a\\\"b\" |(x".toList.length := by
  have whole : (ofText "tags>=\"a\\\"b\" |(x").drain.2.1 = none := by decide +kernel
  exact ⟨by decide +kernel, laidOut_of_drain whole⟩

end TokenReader
end PipeQuery

import PipeQuery.Proofs.Token.Sources

/-!
# Texts put together

Two texts are put together without harm where the last character of the first one or the first
character of the second one ends every token: then no token reaches from one into the other.  The
whole text has the tokens of its front and then those of its back, moved behind the front, and a
reader that starts within a text takes the tokens of what is left there, at their places in the
whole text (`TokenReader.drain_append`).
-/

namespace PipeQuery

/-- One of the two characters that meet where the texts are put together ends every token, unless
one of the texts is empty. -/
def Text.Parted (front back : List Char) : Prop :=
  ∀ last ∈ front.getLast?, ∀ first ∈ back.head?, isBreak last = true ∨ isBreak first = true

theorem Text.Parted.behind {front rest back : List Char} (parted : Parted (front ++ rest) back) :
    Parted rest back := by
  intro last isLast
  apply parted last
  rw [List.getLast?_append, show rest.getLast? = some last from isLast]
  rfl

/-! ## Tokens in front of a longer text -/

/-- Behind a source that ends in no breaking character a parted text begins with one. -/
theorem Text.Parted.replaces {source rest back : List Char} (parted : Parted (source ++ rest) back)
    (nonempty : source ≠ []) (solid : ∀ c ∈ source, isBreak c = false) :
    Scan.Replaces rest (rest ++ back) := by
  intro first isFirst
  cases rest with
  | cons c others => exact .inr isFirst
  | nil =>
      rw [List.append_nil] at parted
      have isLast := List.getLast?_eq_some_getLast nonempty
      refine .inl ((parted _ isLast first isFirst).resolve_left ?_)
      rw [solid _ (List.getLast_mem nonempty)]
      exact Bool.false_ne_true

theorem Text.IsWord.solid {word : String} (isWord : Text.IsWord word) :
    ∀ c ∈ word.toList, Text.isBreak c = false := by
  intro c member
  refine Bool.eq_false_iff.mpr fun breaks => ?_
  have stops := Text.not_isWord_of_isBreak breaks
  rw [isWord.characters c member] at stops
  cases stops

namespace Token.HasSource

variable {offset : Nat} {rest more source : List Char} {token : Token}

/-- A source stays one in front of a text that is parted from it. -/
theorem append (hasSource : token.HasSource offset rest source)
    (parted : Text.Parted (source ++ rest) more) :
    token.HasSource offset (rest ++ more) source := by
  cases hasSource with
  | mark isMark => exact .mark isMark
  | quoted means => exact .quoted means
  | @operator operator isOperator longest =>
      have plain : ∀ operator ∈ Spells.operators, operator.toList ≠ [] ∧
          operator.toList.all (!Text.isBreak ·) = true := by
        decide +kernel
      obtain ⟨nonempty, unbroken⟩ := plain operator isOperator
      have solid : ∀ c ∈ operator.toList, Text.isBreak c = false := by simpa using unbroken
      refine .operator isOperator fun alone first => ?_
      rcases parted.replaces nonempty solid '=' first with breaks | same
      · exact Text.ne_equals_of_isBreak breaks rfl
      · exact longest alone same
  | @word word isWord longest =>
      refine .word isWord fun c first => ?_
      rcases parted.replaces isWord.nonempty isWord.solid c first with breaks | same
      · exact Text.not_isWord_of_isBreak breaks
      · exact longest c same

end Token.HasSource

namespace TokenStream

/-- A text without fault has its own tokens in front of a text that is parted from it. -/
theorem readFrom_append_of_parted {offset : Nat} {text more : List Char} {tokens : List Token}
    (laidOut : LaidOut offset text tokens) (parted : Text.Parted text more) (tolerant : Bool) :
    readFrom tolerant offset (text ++ more) =
      (readFrom tolerant (offset + text.length) more).prepend tokens := by
  induction laidOut with
  | blanks blank => exact readFrom_append_of_blank blank tolerant _ more
  | @token offset blanks source rest token tokens blank hasSource later induction =>
      have longer := hasSource.append parted.behind
      have scanned := Scan.scan_of_hasSource blank longer tolerant
      have joined : blanks ++ (source ++ rest) ++ more = blanks ++ (source ++ (rest ++ more)) := by
        simp only [List.append_assoc]
      have width : offset + (blanks ++ (source ++ rest)).length =
          offset + blanks.length + source.length + rest.length := by
        simp only [List.length_append, Nat.add_assoc]
      rw [joined, readFrom_of_token (by rw [scanned]), scanned, induction parted.behind.behind,
        width]
      rfl

end TokenStream

/-! ## Readers -/

theorem Text.Cursor.advance_of_le {cursor : Text.Cursor} {count : Nat}
    (within : cursor.position + count ≤ cursor.length) :
    cursor.advance count = { cursor with position := cursor.position + count } := by
  induction count generalizing cursor with
  | zero => rfl
  | succ count induction =>
      have inside : cursor.position < cursor.source.length :=
        Nat.lt_of_lt_of_le (by omega) within
      have peeked : cursor.peek? = some cursor.source[cursor.position] :=
        List.getElem?_eq_getElem inside
      have behind : cursor.position + 1 + count ≤ cursor.length := by omega
      have later : ({ cursor with position := cursor.position + 1 } : Text.Cursor).advance count =
          { cursor with position := cursor.position + 1 + count } := induction behind
      rw [Text.Cursor.advance, Text.Cursor.next?_of_peek? peeked, later, Nat.add_assoc,
        Nat.add_comm 1]

namespace TokenReader

/-- Iterating over the reader takes these tokens and then those of the later reader, which stand
`distance` characters further to the left there, and ends as it does. -/
structure TakesThen (tokens : List Token) (distance : Nat) (reader later : TokenReader) : Prop where
  /-- The tokens. -/
  tokens : reader.drain.1 = tokens ++ later.drain.1.map (Token.relocate (· + distance))
  /-- The fault that ends them. -/
  fault : reader.drain.2.1 = later.drain.2.1.map (LexicalFault.relocate (· + distance))

theorem takesThen_of_stream {tokens : List Token} {distance : Nat} {reader later : TokenReader}
    (ready : reader.Ready) (ready' : later.Ready)
    (same : reader.stream = (later.stream.relocate (· + distance)).prepend tokens) :
    TakesThen tokens distance reader later := by
  obtain ⟨sameTokens, sameFault⟩ := drain_of_ready ready
  obtain ⟨sameTokens', sameFault'⟩ := drain_of_ready ready'
  constructor
  · rw [sameTokens, sameTokens', same]
    rfl
  · rw [sameFault, sameFault', same]
    rfl

/-- Iterating over two texts put together takes the tokens of the first one and then, moved behind
it, the tokens and the fault of the second one, provided the first one has no fault and no token
can reach across.  Iterating from within a text takes, moved, the tokens and the fault of what is
left there. -/
theorem drain_append :
    (∀ (front back : String) (tolerant : Bool), (ofText front).drain.2.1 = none →
      Text.Parted front.toList back.toList →
      TakesThen (ofText front).drain.1 front.length
        ((ofText (front ++ back)).withTolerance tolerant)
        ((ofText back).withTolerance tolerant)) ∧
    ∀ (text : String) (count : Nat) (tolerant : Bool), count ≤ text.length →
      TakesThen [] count
        ((ofCursor ((Text.Cursor.start text).advance count)).withTolerance tolerant)
        ((ofText (String.ofList (text.toList.drop count))).withTolerance tolerant) := by
  constructor
  · intro front back tolerant whole parted
    obtain ⟨sameTokens, sameFault⟩ := drain_ofText front
    rw [sameFault] at whole
    have laidOut := TokenStream.laidOut_readFrom whole
    have joined := TokenStream.readFrom_append_of_parted laidOut parted tolerant
    rw [TokenStream.readFrom_add, String.length_toList] at joined
    rw [sameTokens]
    refine takesThen_of_stream ⟨rfl, rfl⟩ ⟨rfl, rfl⟩ ?_
    change TokenStream.readFrom tolerant 0 (front ++ back).toList = _
    rw [String.toList_append]
    exact joined
  · intro text count tolerant within
    have within' : (Text.Cursor.start text).position + count ≤ (Text.Cursor.start text).length := by
      simpa [Text.Cursor.start, Text.Cursor.length, String.length_toList] using within
    have left := TokenStream.readFrom_add tolerant 0 count (text.toList.drop count)
    refine takesThen_of_stream (by rw [Text.Cursor.advance_of_le within']; exact ⟨rfl, rfl⟩)
      ⟨rfl, rfl⟩ ?_
    rw [Text.Cursor.advance_of_le within']
    change TokenStream.readFrom tolerant (0 + count) (text.toList.drop (0 + count)) =
      (TokenStream.readFrom tolerant 0 (String.ofList (text.toList.drop count)).toList).relocate _
    rw [String.toList_ofList, Nat.zero_add]
    rw [Nat.zero_add] at left
    exact left

/-- An operator and an equals sign that a parenthesis keeps apart, a control character in the second
text, and a start within a quoted text, whose closing quote then opens another one. -/
theorem drain_append_fault :
    (ofText "a>(").drain.2.1 = none ∧ Text.Parted "a>(".toList "= \x07".toList ∧
      TakesThen (ofText "a>(").drain.1 3 ((ofText ("a>(" ++ "= \x07")).withTolerance false)
        ((ofText "= \x07").withTolerance false) ∧
      3 ≤ "é \"a | b\"".length ∧
      TakesThen [] 3 ((ofCursor ((Text.Cursor.start "é \"a | b\"").advance 3)).withTolerance false)
        ((ofText (String.ofList ("é \"a | b\"".toList.drop 3))).withTolerance false) := by
  have whole : (ofText "a>(").drain.2.1 = none := by decide +kernel
  have parted : Text.Parted "a>(".toList "= \x07".toList := by
    rintro _ ⟨⟩ _ ⟨⟩
    decide
  have within : 3 ≤ "é \"a | b\"".length := by decide +kernel
  exact ⟨whole, parted, drain_append.1 _ _ false whole parted, within,
    drain_append.2 _ _ false within⟩

end TokenReader
end PipeQuery

import PipeQuery.Proofs.Token.Resumption

/-!
# Cutting a text behind a token

The tokens of a text stand in order within it, so a text cut right behind one of them has exactly
the tokens up to that one (`TokenStream.exists_front_of_readFrom`).
-/

namespace PipeQuery

/-- The offset right behind a token of a text.  Behind the body of a quoted text this counts the
closing quote. -/
def Token.stop (text : List Char) (token : Token) : Nat :=
  match token.kind with
  | .string => token.pos + (Text.Quoted.read false (text.drop token.pos)).width
  | _ => token.pos + token.value.toList.length

namespace Scan

/-- A token stands between the offset where its reading began and the one where it stopped. -/
private def Spans (text : List Char) (offset : Nat) (scan : Scan) (token : Token) : Prop :=
  offset ≤ token.pos ∧ token.pos < scan.offset ∧ token.stop text = scan.offset

private theorem spans_plain {text value rest : List Char} {kind : TokenKind} {offset : Nat}
    {token : Token} (notString : kind ≠ .string) (nonempty : value ≠ [])
    (made : (plain kind value offset rest).outcome = .ok (some token)) :
    Spans text offset (plain kind value offset rest) token := by
  cases made
  have positive : 0 < value.length := List.length_pos_iff.mpr nonempty
  refine ⟨Nat.le_refl _, ?_, ?_⟩
  · simp only [plain]
    omega
  · cases kind <;> simp_all [Token.stop, plain]

private theorem spans_quoted {text rest : List Char} {offset : Nat} {token : Token}
    (within : text.drop offset = rest)
    (made : (quoted false offset rest).outcome = .ok (some token)) :
    Spans text offset (quoted false offset rest) token := by
  simp only [quoted, Bool.or_false] at made
  split at made
  · next closed =>
      cases made
      have positive := Text.Quoted.width_pos_of_closed closed
      refine ⟨Nat.le_refl _, ?_, ?_⟩
      · simp only [quoted]
        omega
      · simp only [Token.stop, quoted, within]
  · cases made

private theorem spans_comparison {text rest : List Char} {c : Char} {offset : Nat}
    {token : Token} (made : (comparison offset c rest).outcome = .ok (some token)) :
    Spans text offset (comparison offset c rest) token := by
  unfold comparison at made ⊢
  split at made
  · split at made
    · next absorbs =>
        simp only [absorbs, if_true]
        exact spans_plain (by decide) (List.cons_ne_nil _ _) made
    · next alone =>
        simp only [alone, Bool.false_eq_true, if_false]
        exact spans_plain (by decide) (List.cons_ne_nil _ _) made
  · exact spans_plain (by decide) (List.cons_ne_nil _ _) made

private theorem spans_begin {text rest : List Char} {c : Char} {offset : Nat} {token : Token}
    (within : text.drop (offset + 1) = rest)
    (made : (begin false offset c rest).outcome = .ok (some token)) :
    Spans text offset (begin false offset c rest) token := by
  unfold begin at made ⊢
  split at made
  iterate 4 exact spans_plain (by decide) (List.cons_ne_nil _ _) made
  · obtain ⟨first, last, stop⟩ := spans_quoted within made
    exact ⟨Nat.le_of_succ_le first, last, stop⟩
  · split at made
    · next comparable =>
        simp only [comparable, if_true]
        exact spans_comparison made
    · next notComparable =>
        split at made
        · cases made
        · next notControl =>
            simp only [notComparable, notControl, Bool.false_eq_true, if_false]
            exact spans_plain (by decide) (List.cons_ne_nil _ _) made

private theorem spans_scan {text rest : List Char} {offset : Nat} {token : Token}
    (within : text.drop offset = rest)
    (made : (Token.scan false offset rest).outcome = .ok (some token)) :
    Spans text offset (Token.scan false offset rest) token := by
  induction rest generalizing offset with
  | nil => cases made
  | cons c rest induction =>
      have within' : text.drop (offset + 1) = rest := by
        rw [← List.drop_drop, within]
        rfl
      rw [Token.scan] at made ⊢
      split at made
      · next blank =>
          simp only [blank, if_true]
          obtain ⟨first, last, stop⟩ := induction within' made
          exact ⟨Nat.le_of_succ_le first, last, stop⟩
      · next notBlank =>
          simp only [notBlank, Bool.false_eq_true, if_false]
          exact spans_begin within' made

/-- A token starts where it is looked for or later, and before the text behind it. -/
theorem pos_scan {rest : List Char} {offset : Nat} {token : Token}
    (made : (Token.scan false offset rest).outcome = .ok (some token)) :
    offset ≤ token.pos ∧ token.pos < (Token.scan false offset rest).offset := by
  have within : (List.replicate offset ' ' ++ rest).drop offset = rest := by simp
  obtain ⟨first, last, -⟩ := spans_scan within made
  exact ⟨first, last⟩

end Scan

namespace TokenStream

theorem le_pos_of_mem_readFrom {offset : Nat} {text : List Char} {token : Token}
    (member : token ∈ (readFrom false offset text).tokens) : offset ≤ token.pos := by
  fun_induction readFrom false offset text with
  | case1 offset text token' made induction =>
      obtain ⟨first, last⟩ := Scan.pos_scan made
      rcases List.mem_cons.mp member with rfl | member
      · exact first
      · exact Nat.le_trans (Nat.le_of_lt (Nat.lt_of_le_of_lt first last)) (induction member)
  | case2 => cases member
  | case3 => cases member

/-- The tokens of a text stand in increasing order. -/
theorem pairwise_readFrom (offset : Nat) (text : List Char) :
    (readFrom false offset text).tokens.Pairwise (·.pos < ·.pos) := by
  fun_induction readFrom false offset text with
  | case1 offset text token made induction =>
      obtain ⟨-, last⟩ := Scan.pos_scan made
      refine List.pairwise_cons.mpr ⟨?_, induction⟩
      intro later member
      exact Nat.lt_of_lt_of_le last (le_pos_of_mem_readFrom member)
  | case2 => exact .nil
  | case3 => exact .nil

/-- The tokens of a text stand within it. -/
theorem pos_lt_of_mem_readFrom {offset : Nat} {text : List Char} {token : Token}
    (member : token ∈ (readFrom false offset text).tokens) :
    token.pos < offset + text.length := by
  fun_induction readFrom false offset text with
  | case1 offset text token' made induction =>
      have counted := Scan.offset_add_length_rest false offset text
      obtain ⟨-, last⟩ := Scan.pos_scan made
      rcases List.mem_cons.mp member with rfl | member
      · omega
      · have := induction member
        omega
  | case2 => cases member
  | case3 => cases member

/-- A text cut right behind one of its tokens has the tokens up to that one and no fault. -/
theorem exists_front_of_readFrom {text rest : List Char} {offset : Nat}
    {before after : List Token} {last : Token} (within : text.drop offset = rest)
    (split : (readFrom false offset rest).tokens = before ++ after)
    (isLast : before.getLast? = some last) :
    ∃ front back, rest = front ++ back ∧ last.stop text = offset + front.length ∧
      readFrom false offset front = { tokens := before, fault := none } := by
  fun_induction readFrom false offset rest generalizing before with
  | case1 offset rest token made induction =>
      obtain ⟨front, cut, width, again⟩ := Scan.exists_front_of_scan made
      cases before with
      | nil => cases isLast
      | cons first before =>
          obtain ⟨rfl, later⟩ := List.cons.inj split
          cases before with
          | nil =>
              obtain rfl : token = last := by simpa using isLast
              obtain ⟨-, -, stop⟩ := Scan.spans_scan within made
              have scanned := again false [] fun _ none => by cases none
              rw [List.append_nil] at scanned
              refine ⟨front, _, cut, stop.trans width, ?_⟩
              rw [readFrom_of_token (by rw [scanned]), scanned, readFrom_of_end rfl]
              rfl
          | cons second before =>
              have within' : text.drop (Token.scan false offset rest).offset =
                  (Token.scan false offset rest).rest := by
                rw [width, ← List.drop_drop, within]
                exact (congrArg (List.drop front.length) cut).trans List.drop_left
              rw [List.getLast?_cons_cons] at isLast
              obtain ⟨front', back, cut', stop, read⟩ := induction within' later isLast
              refine ⟨front ++ front', back, ?_, ?_, ?_⟩
              · rw [List.append_assoc, ← cut', ← cut]
              · rw [stop, width, List.length_append, Nat.add_assoc]
              · have replaces : Scan.Replaces (Token.scan false offset rest).rest front' := by
                  intro c isFirst
                  right
                  rw [cut', List.head?_append, isFirst]
                  rfl
                have scanned := again false front' replaces
                rw [readFrom_of_token (by rw [scanned]), scanned, read]
                rfl
  | case2 => simp_all
  | case3 => simp_all

end TokenStream
end PipeQuery

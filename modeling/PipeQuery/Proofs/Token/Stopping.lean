import PipeQuery.Proofs.LexicalFaults
import PipeQuery.Proofs.Token.Lookahead
import PipeQuery.Proofs.Token.Sources

/-!
# What ends an iteration

A strict reader stops in front of a control character that stands in no quoted text, behind a quote
that nothing closes, or at the end of a text whose control characters, blanks apart, all stand in
quoted texts (`TokenReader.drain_ending`).  Either way it has taken all tokens in front.
-/

namespace PipeQuery

namespace Text.Quoted

/-- Number of escape signs at the end of a text. -/
def escapeRun (before : List Char) : Nat :=
  (before.reverse.takeWhile (· == escapeSign)).length

/-- What stands behind the text is protected: escape signs are paired from the left, so the last one
of an odd run protects what follows. -/
def Protects (before : List Char) : Prop :=
  escapeRun before % 2 = 1

theorem escapeRun_cons {c : Char} (notEscape : c ≠ escapeSign) (before : List Char) :
    escapeRun (c :: before) = escapeRun before := by
  have refused : [c].takeWhile (· == escapeSign) = [] := by simp [notEscape]
  rw [escapeRun, escapeRun, List.reverse_cons, List.takeWhile_append, refused, List.append_nil]
  split
  · next all => exact all.symm
  · rfl

/-- A protected character and its escape sign do not count in front of what follows them. -/
theorem protects_escaped {c : Char} {before : List Char} :
    Protects (escapeSign :: c :: before) ↔ Protects before := by
  have pair : (escapeSign :: c :: before).reverse = before.reverse ++ [c, escapeSign] := by simp
  rw [Protects, Protects, escapeRun, escapeRun, pair, List.takeWhile_append]
  split
  · next all =>
      rw [all, List.length_append]
      by_cases isEscape : c = escapeSign
      · simp [isEscape]
      · simp [isEscape]
  · rfl

/-- Every quote in an unclosed body is protected. -/
theorem protects_of_unclosed {body before after : List Char}
    (unclosed : (read false body).closed = false) (split : body = before ++ quote :: after) :
    Protects before := by
  fun_induction read false body generalizing before with
  | case1 => simp at split
  | case2 => cases unclosed
  | case3 =>
      rcases before with _ | ⟨c, _ | ⟨d, before⟩⟩
      · cases split
      · cases split
      · cases split
  | case4 c rest induction =>
      rcases before with _ | ⟨_, _ | ⟨d, before⟩⟩
      · cases split
      · cases split
        rfl
      · cases split
        exact protects_escaped.mpr (induction unclosed rfl)
  | case5 c rest notQuote notLast notEscape induction =>
      cases before with
      | nil =>
          cases split
          exact absurd rfl notQuote
      | cons _ before =>
          cases split
          rw [Protects, escapeRun_cons (ne_escapeSign notLast notEscape)]
          exact induction unclosed rfl

/-- Between two quotes a character that is no quote stands in the body. -/
theorem within_of_getElem? {body : List Char} {index : Nat} {c : Char}
    (found : (quote :: (body ++ [quote]))[index]? = some c) (notQuote : c ≠ quote) :
    0 < index ∧ index ≤ body.length := by
  cases index with
  | zero => exact absurd (Option.some.inj found).symm notQuote
  | succ index =>
      refine ⟨Nat.succ_pos index, ?_⟩
      rw [List.getElem?_cons_succ, List.getElem?_append] at found
      split at found
      · next inside => exact inside
      · next behind =>
          have last := List.mem_singleton.mp (List.mem_of_getElem? found)
          exact absurd last notQuote

end Text.Quoted

/-- In a text that starts at an offset, the character with the given index stands between the quotes
of a quoted text, and that is one of the tokens. -/
inductive Enclosed (offset : Nat) (text : List Char) (tokens : List Token) (index : Nat) :
    Prop where
  | between {front body rest value : List Char}
      (split : text = front ++ Text.Quoted.quote :: (body ++ Text.Quoted.quote :: rest))
      (means : Text.Quoted.Means body value)
      (member :
        { kind := .string, value := String.ofList value, pos := offset + front.length + 1 } ∈
          tokens)
      (opened : front.length < index) (closed : index ≤ front.length + body.length) :
      Enclosed offset text tokens index

/-- A source without control characters, or a quoted text. -/
theorem Token.HasSource.controlled {offset : Nat} {rest source : List Char} {token : Token}
    (hasSource : token.HasSource offset rest source) :
    (∀ c ∈ source, Text.isControl c = false) ∨
      ∃ body value, Text.Quoted.Means body value ∧
        source = Text.Quoted.quote :: (body ++ [Text.Quoted.quote]) ∧
        token = { kind := .string, value := String.ofList value, pos := offset + 1 } := by
  cases hasSource with
  | mark isMark =>
      left
      simp only [marks, List.mem_cons, Prod.mk.injEq, List.not_mem_nil, or_false] at isMark
      rcases isMark with ⟨rfl, -⟩ | ⟨rfl, -⟩ | ⟨rfl, -⟩ | ⟨rfl, -⟩ <;> simp [Text.isControl]
  | operator isOperator =>
      left
      simp only [Spells.operators, List.mem_cons, List.not_mem_nil, or_false] at isOperator
      rcases isOperator with rfl | rfl | rfl | rfl | rfl | rfl | rfl <;> simp [Text.isControl]
  | word isWord =>
      left
      intro c member
      exact (Text.isWord_iff.mp (isWord.characters c member)).2.2.2
  | quoted means => exact .inr ⟨_, _, means, rfl, rfl⟩

/-- In a text laid out in its tokens a control character is a blank or stands in a quoted text. -/
theorem LaidOut.enclosed {offset : Nat} {text : List Char} {tokens : List Token}
    (laidOut : LaidOut offset text tokens) {index : Nat} {c : Char} (found : text[index]? = some c)
    (isControl : Text.isControl c = true) (notBlank : Text.isBlank c = false) :
    Enclosed offset text tokens index := by
  induction laidOut generalizing index with
  | blanks blank =>
      rw [blank c (List.mem_of_getElem? found)] at notBlank
      cases notBlank
  | @token offset blanks source rest token tokens blank hasSource later induction =>
      rw [List.getElem?_append] at found
      split at found
      · rw [blank c (List.mem_of_getElem? found)] at notBlank
        cases notBlank
      next behindBlanks =>
      rw [List.getElem?_append] at found
      split at found
      · next inSource =>
          rcases hasSource.controlled with none | ⟨body, value, means, rfl, rfl⟩
          · rw [none c (List.mem_of_getElem? found)] at isControl
            cases isControl
          · have notQuote : c ≠ Text.Quoted.quote := by
              rintro rfl
              cases isControl
            obtain ⟨opened, closed⟩ := Text.Quoted.within_of_getElem? found notQuote
            have split : blanks ++ ((Text.Quoted.quote :: (body ++ [Text.Quoted.quote])) ++ rest) =
                blanks ++ Text.Quoted.quote :: (body ++ Text.Quoted.quote :: rest) := by simp
            exact .between split means List.mem_cons_self (by omega) (by omega)
      · next behindSource =>
          obtain ⟨split, means, member, opened, closed⟩ := induction found
          rename_i front body rest' value
          have split' : blanks ++ (source ++ rest) = (blanks ++ (source ++ front)) ++
              Text.Quoted.quote :: (body ++ Text.Quoted.quote :: rest') := by
            simp [split]
          refine .between split' means (List.mem_cons_of_mem token ?_) ?_ ?_
          · simpa [Nat.add_assoc] using member
          · simp only [List.length_append]
            omega
          · simp only [List.length_append]
            omega

/-- A blank is no fault. -/
theorem TokenStream.not_isBlank_of_unlexable {tolerant : Bool} {offset place : Nat}
    {text : List Char} {c : Char}
    (met : (readFrom tolerant offset text).fault = some (.unlexable c place)) :
    Text.isBlank c = false := by
  fun_induction readFrom tolerant offset text with
  | case1 offset text token made induction => exact induction met
  | case2 => cases met
  | case3 offset text fault failed =>
      obtain rfl := Option.some.inj met
      obtain ⟨blanks, c', rest, -, notBlank, -, begun⟩ := Scan.exists_begin_of_fault failed
      rw [begun] at failed
      rcases Scan.begin_fault_cases failed with ⟨-, same, -⟩ | ⟨-, -, ⟨⟩, -⟩
      obtain ⟨rfl, -⟩ := LexicalFault.unlexable.inj same
      exact notBlank

namespace TokenReader

/-- Iteration that meets an unclosed text has read to the end. -/
theorem position_drain_of_unclosed {reader : TokenReader} (ready : reader.Ready)
    (within : reader.cursor.position ≤ reader.cursor.length)
    (failed : reader.drain.2.1 = some .unclosedString) :
    reader.drain.2.2.cursor.position = reader.cursor.length := by
  fun_induction drain reader with
  | case1 reader token made tokens ending later induction =>
      obtain ⟨ready', -⟩ := ready.of_token made
      have onward : reader.iterate.2.cursor = reader.scan.2.cursor := by rw [ready.iterate_eq]
      have same : reader.iterate.2.cursor.length = reader.cursor.length := by rw [onward]; rfl
      have within' : reader.iterate.2.cursor.position ≤ reader.iterate.2.cursor.length := by
        have counted := position_scan within
        rw [same, onward]
        omega
      rw [later] at induction
      exact (induction ready' within' failed).trans same
  | case2 reader ended => cases failed
  | case3 reader fault met =>
      obtain rfl := Option.some.inj failed
      rw [ready.iterate_eq] at met ⊢
      exact position_scan_of_unclosed within met

/-- The text in front of an offset has all tokens of a text, and no fault. -/
def EndBefore (text : String) (offset : Nat) : Prop :=
  (ofText (String.ofList (text.toList.take offset))).drain.1 = (ofText text).drain.1 ∧
    (ofText (String.ofList (text.toList.take offset))).drain.2.1 = none

theorem endBefore_of_read {text : String} {front rest : List Char}
    (split : text.toList = front ++ rest)
    (before : TokenStream.read false front =
      { TokenStream.read false text.toList with fault := none }) :
    EndBefore text front.length := by
  obtain ⟨tokens, -⟩ := drain_ofText text
  obtain ⟨tokens', fault'⟩ := drain_ofText (String.ofList (text.toList.take front.length))
  have cut : text.toList.take front.length = front := by rw [split, List.take_left]
  rw [String.toList_ofList, cut, before] at tokens' fault'
  rw [EndBefore, cut]
  exact ⟨tokens'.trans tokens.symm, fault'⟩

/-- With tolerance no text is unclosed. -/
theorem drain_tolerant_ne_unclosed (text : String) :
    ((ofText text).withTolerance true).drain.2.1 ≠ some .unclosedString := by
  rw [(drain_withTolerance text true).2]
  intro unclosed
  have same := TokenStream.read_of_fault unclosed
  rw [same] at unclosed
  obtain ⟨token, whole⟩ := TokenStream.exists_read_of_unclosed unclosed
  rw [← same, whole] at unclosed
  cases unclosed

/-- An iteration that meets a control character stops in front of it; one that meets an unclosed
text stops at the end, behind a quote that no other one closes.  In front of the place to blame
stand all tokens taken.  Where neither is met, all control characters that are no blanks stand in
quoted texts.  With tolerance no text is unclosed. -/
theorem drain_ending (text : String) :
    (match (ofText text).drain.2.1 with
      | some (.unlexable c offset) =>
          (LexicalFault.unlexable c offset).column? = some offset ∧
            text.toList[offset]? = some c ∧
            Text.isControl c = true ∧ c ∉ [' ', '\t', '\r', '\n'] ∧
            EndBefore text offset
      | some .unclosedString =>
          LexicalFault.unclosedString.column? = none ∧
            (∃ front body, text.toList = front ++ Text.Quoted.quote :: body ∧
              EndBefore text front.length ∧
              ∀ before after, body = before ++ Text.Quoted.quote :: after →
                Text.Quoted.Protects before) ∧
            (ofText text).drain.2.2.cursor.position = text.length
      | none =>
          ∀ index c, text.toList[index]? = some c → Text.isControl c = true →
            c ∉ ['\t', '\r', '\n'] → Enclosed 0 text.toList (ofText text).drain.1 index) ∧
      ((ofText text).withTolerance true).drain.2.1 ≠ some .unclosedString := by
  refine ⟨?_, drain_tolerant_ne_unclosed text⟩
  have drained := (drain_ofText text).2
  split
  · next c offset met =>
      rw [met] at drained
      obtain ⟨_, stands, -⟩ := TokenStream.exists_faultAt drained.symm
      cases stands with
      | @control front rest c split isControl before =>
          have notBlank := TokenStream.not_isBlank_of_unlexable drained.symm
          refine ⟨rfl, ?_, isControl, ?_, endBefore_of_read split before⟩
          · simp [split]
          · simpa [Text.isBlank, and_assoc, and_left_comm, and_comm] using notBlank
  · next met =>
      rw [met] at drained
      obtain ⟨_, stands, -⟩ := TokenStream.exists_faultAt drained.symm
      cases stands with
      | @quote front body split unclosed before =>
          refine ⟨rfl, ⟨front, body, split, endBefore_of_read split before, ?_⟩, ?_⟩
          · intro before after within
            exact Text.Quoted.protects_of_unclosed unclosed within
          · rw [← String.length_toList]
            exact position_drain_of_unclosed ⟨rfl, rfl⟩ (Nat.zero_le _) met
  · next met =>
      intro index c found isControl notLayout
      have notSpace : c ≠ ' ' := by
        rintro rfl
        cases isControl
      have notBlank : Text.isBlank c = false := by simp_all [Text.isBlank]
      obtain ⟨tokens, fault⟩ := drain_ofText text
      rw [tokens]
      rw [fault] at met
      exact (TokenStream.laidOut_readFrom met).enclosed found isControl notBlank

end TokenReader
end PipeQuery

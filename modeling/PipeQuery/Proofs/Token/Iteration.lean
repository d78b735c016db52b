import PipeQuery.Token.Reader
import PipeQuery.Token.Stream

/-!
# Iterating over the tokens of a text

A reader that looks at no token and has met no fault iterates over the tokens of the text behind its
cursor, up to the fault that ends them (`TokenReader.drain_of_ready`).
-/

namespace PipeQuery

theorem Text.Quoted.rest_read_suffix (keepEscapes : Bool) (text : List Char) :
    (read keepEscapes text).rest <:+ text := by
  fun_induction read keepEscapes text with
  | case1 => exact List.suffix_refl _
  | case2 rest => exact List.suffix_cons _ _
  | case3 => exact List.nil_suffix
  | case4 c rest induction =>
      exact induction.trans ((List.suffix_cons c rest).trans (List.suffix_cons '\\' _))
  | case5 c rest _ _ _ induction => exact induction.trans (List.suffix_cons c rest)

namespace Scan

private theorem rest_comparison_suffix (offset : Nat) (c : Char) (rest : List Char) :
    (comparison offset c rest).rest <:+ rest := by
  unfold comparison
  split
  · split
    · exact List.suffix_cons _ _
    · exact List.suffix_refl _
  · exact List.suffix_refl _

private theorem rest_begin_suffix (tolerant : Bool) (offset : Nat) (c : Char)
    (rest : List Char) : (begin tolerant offset c rest).rest <:+ c :: rest := by
  have behind : rest <:+ c :: rest := List.suffix_cons c rest
  unfold begin
  split
  iterate 4 exact behind
  · exact (Text.Quoted.rest_read_suffix false rest).trans behind
  · split
    · exact (rest_comparison_suffix offset c rest).trans behind
    · split
      · exact List.suffix_refl _
      · exact (List.dropWhile_suffix _).trans behind

/-- What a scan leaves is the end of the text that it was given. -/
theorem rest_suffix (tolerant : Bool) (offset : Nat) (text : List Char) :
    (Token.scan tolerant offset text).rest <:+ text := by
  induction text generalizing offset with
  | nil => exact List.suffix_refl _
  | cons c rest induction =>
      rw [Token.scan]
      split
      · exact (induction (offset + 1)).trans (List.suffix_cons c rest)
      · exact rest_begin_suffix tolerant offset c rest

/-- A scan moves on by as many characters as it takes. -/
theorem rest_eq_drop (tolerant : Bool) (offset : Nat) (text : List Char) :
    offset ≤ (Token.scan tolerant offset text).offset ∧
      (Token.scan tolerant offset text).rest =
        text.drop ((Token.scan tolerant offset text).offset - offset) := by
  have counted := offset_add_length_rest tolerant offset text
  have suffix := rest_suffix tolerant offset text
  have shorter := suffix.length_le
  have taken : (Token.scan tolerant offset text).offset - offset =
      text.length - (Token.scan tolerant offset text).rest.length := by omega
  constructor
  · omega
  · rw [taken]
    exact List.suffix_iff_eq_drop.mp suffix

end Scan

namespace TokenReader

/-- The reader looks at no token and has met no fault. -/
structure Ready (reader : TokenReader) : Prop where
  /-- No token waits to be taken. -/
  empty : reader.lookahead = none
  /-- Iteration goes on. -/
  running : reader.stopped = false

/-- The tokens of the text behind the cursor. -/
def stream (reader : TokenReader) : TokenStream :=
  TokenStream.readFrom reader.tolerant reader.cursor.position reader.cursor.remaining

variable {reader : TokenReader}

theorem remaining_scan (reader : TokenReader) :
    reader.scan.2.cursor.remaining =
      (Token.scan reader.tolerant reader.cursor.position reader.cursor.remaining).rest := by
  obtain ⟨forward, left⟩ :=
    Scan.rest_eq_drop reader.tolerant reader.cursor.position reader.cursor.remaining
  rw [left, Text.Cursor.remaining, Text.Cursor.remaining, List.drop_drop]
  exact congrArg (reader.cursor.source.drop ·) (Nat.add_sub_of_le forward).symm

/-- A ready reader iterates by scanning. -/
theorem Ready.iterate_eq (ready : reader.Ready) :
    reader.iterate =
      (reader.scan.1, { reader.scan.2 with stopped := !reader.scan.1.isOk }) := by
  simp only [TokenReader.iterate, next, ready.empty, ready.running, Bool.false_eq_true, if_false]
  split
  · next token reader' scanned =>
      have running : reader'.stopped = false := by
        rw [← ready.running, ← congrArg (·.2.stopped) scanned]
        rfl
      simp [scanned, Except.isOk, Except.toBool, ← running]
  · next fault reader' scanned => simp [scanned, Except.isOk, Except.toBool]

/-- A ready reader that takes a token stays ready, in front of the later tokens. -/
theorem Ready.of_token (ready : reader.Ready) {token : Token}
    (made : reader.iterate.1 = .ok (some token)) :
    reader.iterate.2.Ready ∧ reader.stream = reader.iterate.2.stream.push token := by
  rw [ready.iterate_eq] at made ⊢
  constructor
  · have scanned : reader.scan.1 = .ok (some token) := made
    exact ⟨ready.empty, by simp [scanned, Except.isOk, Except.toBool]⟩
  · rw [stream, TokenStream.readFrom_of_token made, ← remaining_scan]
    rfl

/-- Iterating to the end takes the tokens of the text behind the cursor and meets their fault. -/
theorem drain_of_ready (ready : reader.Ready) :
    reader.drain.1 = reader.stream.tokens ∧ reader.drain.2.1 = reader.stream.fault := by
  fun_induction drain reader with
  | case1 reader token made tokens ending later induction =>
      obtain ⟨ready', split⟩ := ready.of_token made
      obtain ⟨sameTokens, sameFault⟩ := induction ready'
      rw [later] at sameTokens sameFault
      rw [split]
      exact ⟨congrArg (token :: ·) sameTokens, sameFault⟩
  | case2 reader ended =>
      rw [ready.iterate_eq] at ended
      rw [stream, TokenStream.readFrom_of_end ended]
      exact ⟨rfl, rfl⟩
  | case3 reader fault failed =>
      rw [ready.iterate_eq] at failed
      rw [stream, TokenStream.readFrom_of_fault failed]
      exact ⟨rfl, rfl⟩

theorem drain_withTolerance (text : String) (tolerant : Bool) :
    ((ofText text).withTolerance tolerant).drain.1 =
        (TokenStream.read tolerant text.toList).tokens ∧
      ((ofText text).withTolerance tolerant).drain.2.1 =
        (TokenStream.read tolerant text.toList).fault :=
  drain_of_ready ⟨rfl, rfl⟩

theorem drain_ofText (text : String) :
    (ofText text).drain.1 = (TokenStream.read false text.toList).tokens ∧
      (ofText text).drain.2.1 = (TokenStream.read false text.toList).fault :=
  drain_withTolerance text false

end TokenReader
end PipeQuery

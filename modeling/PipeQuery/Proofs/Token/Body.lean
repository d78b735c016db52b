import PipeQuery.Proofs.Token.Stopping
import PipeQuery.Proofs.Tolerance

/-!
# Bodies of quoted texts

The first quote that no escape sign protects closes a body.  Whatever is asked for, reading finds
this quote and gives the characters in front of it, with their escape signs or without them.  Where
there is none, it passes over all that is left (`TokenReader.readBody_content`).
-/

namespace PipeQuery

namespace Text.Quoted

/-- The text with every escape sign and the character behind it replaced by that character, escape
signs being paired from the left. -/
def unescape : List Char → List Char
  | [] => []
  | '\\' :: c :: rest => c :: unescape rest
  | c :: rest => c :: unescape rest

/-- What a body is read as, with its escape signs or without them. -/
def content (keepEscapes : Bool) (body : List Char) : List Char :=
  if keepEscapes then body else unescape body

/-- The body ends at the first quote of the text that no escape sign protects. -/
structure Closes (body rest text : List Char) : Prop where
  /-- The quote stands between the body and the rest. -/
  split : text = body ++ quote :: rest
  /-- It is not protected. -/
  unprotected : ¬Protects body
  /-- Every quote in front of it is. -/
  first : ∀ before after, body = before ++ quote :: after → Protects before

/-! ## Protected characters -/

theorem escapeRun_concat (before : List Char) (c : Char) :
    escapeRun (before ++ [c]) = if c = escapeSign then escapeRun before + 1 else 0 := by
  by_cases isEscape : c = escapeSign
  · simp [escapeRun, isEscape]
  · simp [escapeRun, isEscape]

/-- A character is protected by an escape sign in front of it that is not protected itself. -/
theorem protects_concat {c : Char} {before : List Char} :
    Protects (before ++ [c]) ↔ c = escapeSign ∧ ¬Protects before := by
  rw [Protects, Protects, escapeRun_concat]
  by_cases isEscape : c = escapeSign
  · rw [if_pos isEscape, and_iff_right isEscape]
    omega
  · simp [isEscape]

/-- An escape sign dangles where it protects what comes next. -/
theorem dangles_iff (body : List Char) : dangles body = true ↔ Protects body := by
  fun_induction dangles body with
  | case1 => simp [Protects, escapeRun]
  | case2 => simp [Protects, escapeRun, escapeSign]
  | case3 c rest induction => exact induction.trans protects_escaped.symm
  | case4 c rest notLast notEscape induction =>
      rw [induction, Protects, Protects, escapeRun_cons (ne_escapeSign notLast notEscape)]

/-- At most one escape sign is trimmed. -/
theorem exists_trimmed (body : List Char) :
    ∃ tail, body = trim body ++ tail ∧ (tail = [] ∨ tail = [escapeSign]) := by
  unfold trim
  split
  · next hangs =>
      have parts := List.dropLast_concat_getLast (ne_nil_of_dangles hangs)
      have protects := (dangles_iff body).mp hangs
      rw [← parts] at protects
      obtain ⟨last, -⟩ := protects_concat.mp protects
      rw [last] at parts
      exact ⟨[escapeSign], parts.symm, .inr rfl⟩
  · exact ⟨[], (List.append_nil body).symm, .inl rfl⟩

/-! ## Bodies and what they stand for -/

namespace Means

variable {body value : List Char}

/-- A body stands for what it is without its escape signs. -/
theorem unescape_eq (means : Means body value) : unescape body = value := by
  induction means with
  | nil => rfl
  | escaped c means induction => exact congrArg (c :: ·) induction
  | plain notQuote notEscape means induction =>
      rw [unescape, induction]
      exact fun _ _ isEscape _ => notEscape isEscape

/-- A body protects nothing behind it. -/
theorem not_protects (means : Means body value) : ¬Protects body := by
  induction means with
  | nil => simp [Protects, escapeRun]
  | escaped c means induction => exact fun protects => induction (protects_escaped.mp protects)
  | plain notQuote notEscape means induction =>
      rw [Protects, escapeRun_cons notEscape]
      exact induction

/-- Every quote in a body is protected. -/
theorem protects_before (means : Means body value) {before after : List Char}
    (split : body = before ++ quote :: after) : Protects before := by
  have passed := read_append means false []
  rw [List.append_nil] at passed
  exact protects_of_unclosed (by rw [passed]; rfl) split

/-- Reading gives the content of a body, whatever stands behind that. -/
theorem read_append_content (means : Means body value) (keepEscapes : Bool) (text : List Char) :
    read keepEscapes (body ++ text) =
      (read keepEscapes text).push (content keepEscapes body) body.length := by
  rw [read_append means, content, means.unescape_eq]

end Means

/-- A text in which reading finds a closing quote is closed by an unprotected one. -/
theorem exists_closes_of_closed {text : List Char} (closed : (read false text).closed = true) :
    ∃ body rest, Closes body rest text := by
  obtain ⟨body, split, -, means⟩ := exists_means_of_closed closed
  exact ⟨body, _, split, means.not_protects, fun _ _ => means.protects_before⟩

/-- Where no unprotected quote closes a text, reading finds none. -/
theorem unclosed_of_not_closes {text : List Char} (unclosed : ¬∃ body rest, Closes body rest text) :
    (read false text).closed = false := by
  rw [← Bool.not_eq_true]
  exact fun closed => unclosed (exists_closes_of_closed closed)

namespace Closes

variable {body rest text : List Char}

/-- The body in front of the closing quote stands for its content. -/
theorem means (closes : Closes body rest text) : Means body (unescape body) := by
  -- A quote that closed the body itself would be an unprotected one in front of the first.
  have unclosed : (read false body).closed = false := by
    refine unclosed_of_not_closes ?_
    rintro ⟨before, after, inner⟩
    exact inner.unprotected (closes.first before after inner.split)
  have whole : trim body = body := by
    rw [trim, if_neg]
    exact fun hangs => closes.unprotected ((dangles_iff body).mp hangs)
  have trimmed := means_trim unclosed
  rw [whole] at trimmed
  rw [trimmed.unescape_eq]
  exact trimmed

/-- A closed body is read to its closing quote. -/
theorem read_eq (closes : Closes body rest text) (keepEscapes : Bool) :
    read keepEscapes text =
      { value := content keepEscapes body, width := body.length + 1, closed := true, rest } := by
  rw [closes.split, closes.means.read_append_content]
  simp [Body.push, read, quote]

end Closes

/-- A text that nothing closes is read to its end, and a dangling escape sign is dropped. -/
theorem read_of_not_closes {text : List Char} (unclosed : ¬∃ body rest, Closes body rest text)
    (keepEscapes : Bool) :
    read keepEscapes text =
      { value := content keepEscapes (trim text), width := text.length, closed := false
        rest := [] } := by
  have means := means_trim (unclosed_of_not_closes unclosed)
  obtain ⟨tail, split, isTail⟩ := exists_trimmed text
  have passed := means.read_append_content keepEscapes tail
  have width : text.length = (trim text).length + tail.length := by
    rw [← List.length_append, ← split]
  rw [← split] at passed
  rw [passed, width]
  rcases isTail with rfl | rfl <;> simp [Body.push, read, escapeSign]

end Text.Quoted

namespace TokenReader

open Text.Quoted

/-- The body of a quoted text is read up to the first quote that no escape sign protects, and the
cursor stands right behind that quote, be a closing quote required or not.  Without such a quote the
cursor stands at the end, and what was left is read if no closing quote is required.  A text that is
written with escape signs comes back. -/
theorem readBody_content {reader : TokenReader}
    (within : reader.cursor.position ≤ reader.cursor.length) (keepEscapes quoteRequired : Bool) :
    (∀ body rest, Closes body rest reader.cursor.remaining →
      reader.readBody keepEscapes quoteRequired =
        (.ok (String.ofList (content keepEscapes body)),
          { reader with cursor.position := reader.cursor.position + body.length + 1 })) ∧
    ((¬∃ body rest, Closes body rest reader.cursor.remaining) →
      reader.readBody keepEscapes quoteRequired =
        (if quoteRequired then .error .unclosedString
          else .ok (String.ofList (content keepEscapes (trim reader.cursor.remaining))),
          { reader with cursor.position := reader.cursor.length })) ∧
    ∀ (text : String) (rest : List Char),
      reader.cursor.remaining = write text.toList ++ quote :: rest →
      reader.readBody false quoteRequired =
        (.ok text,
          { reader with
            cursor.position := reader.cursor.position + (write text.toList).length + 1 }) := by
  refine ⟨?_, ?_, ?_⟩
  · intro body rest closes
    simp [readBody, closes.read_eq, Nat.add_assoc]
  · intro unclosed
    have counted : reader.cursor.position + reader.cursor.remaining.length =
        reader.cursor.length := by
      rw [Text.Cursor.length_remaining]
      exact Nat.add_sub_of_le within
    rw [readBody, read_of_not_closes unclosed]
    cases quoteRequired <;> simp [counted]
  · intro text rest split
    have written := read_append_of_means (means_write text.toList) rest
    rw [← split] at written
    simp [readBody, written, Nat.add_assoc]

/-- A strict reader at a position of a text in quotes with a character that needs no escape sign, a
quote and an escape sign, and with one more escape sign at the end. -/
private def amidEscapes (position : Nat) : TokenReader :=
  ofCursor { source := "\"\\é\\\"\\\\\" b\\".toList, position, bookmarks := [] }

/-- The body in quotes with all its escape signs, the text behind it, where no quote follows and the
last escape sign is dropped, and the body from its second character on, as it would be written. -/
theorem readBody_content_escapes :
    (amidEscapes 1).cursor.position ≤ (amidEscapes 1).cursor.length ∧
      Closes "\\é\\\"\\\\".toList " b\\".toList (amidEscapes 1).cursor.remaining ∧
      (amidEscapes 1).readBody true false = (.ok "\\é\\\"\\\\", amidEscapes 8) ∧
      (¬∃ body rest, Closes body rest (amidEscapes 8).cursor.remaining) ∧
      (amidEscapes 8).readBody false true = (.error .unclosedString, amidEscapes 11) ∧
      (amidEscapes 8).readBody true false = (.ok " b", amidEscapes 11) ∧
      (amidEscapes 3).cursor.remaining =
        write "\"\\".toList ++ quote :: " b\\".toList ∧
      (amidEscapes 3).readBody false true = (.ok "\"\\", amidEscapes 8) := by
  have within : ∀ position ≤ 11,
      (amidEscapes position).cursor.position ≤ (amidEscapes position).cursor.length :=
    fun _ inside => inside
  have means : Means "\\é\\\"\\\\".toList "é\"\\".toList :=
    .escaped 'é' (.escaped '"' (.escaped '\\' .nil))
  have closes : Closes "\\é\\\"\\\\".toList " b\\".toList (amidEscapes 1).cursor.remaining :=
    ⟨rfl, means.not_protects, fun _ _ => means.protects_before⟩
  have unclosed : ¬∃ body rest, Closes body rest (amidEscapes 8).cursor.remaining := by
    rintro ⟨body, rest, closes⟩
    have quoted : quote ∈ (amidEscapes 8).cursor.remaining := by
      rw [closes.split]
      exact List.mem_append_right body List.mem_cons_self
    revert quoted
    decide
  have written : (amidEscapes 3).cursor.remaining =
      write "\"\\".toList ++ quote :: " b\\".toList := rfl
  exact ⟨within 1 (by decide), closes,
    (readBody_content (within 1 (by decide)) true false).1 _ _ closes, unclosed,
    (readBody_content (within 8 (by decide)) false true).2.1 unclosed,
    (readBody_content (within 8 (by decide)) true false).2.1 unclosed, written,
    (readBody_content (within 3 (by decide)) false true).2.2 _ _ written⟩

end TokenReader
end PipeQuery

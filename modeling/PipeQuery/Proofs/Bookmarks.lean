import PipeQuery.Text.Cursor

/-!
# Cursors and their bookmarks

Whatever is done to a cursor, it stays within its text, and so do its bookmarks.  A call that reads
gives the part of the text that it passes over.  Going back undoes everything since the bookmark was
set if the calls in between drop the bookmarks that they set and no other ones
(`Text.Cursor.Reachable.faithful`).
-/

namespace PipeQuery
namespace Text
namespace Cursor

/-! ## Calls -/

/-- What can be asked of a cursor. -/
inductive Call where
  /-- Read one character. -/
  | next
  /-- Look at the next character. -/
  | peek
  /-- Ask whether no character is left. -/
  | atEnd
  /-- Ask for a part of the text. -/
  | slice (first last : Nat)
  /-- Read the longest run of accepted characters. -/
  | readWhile (accepts : Char → Bool)
  /-- Set a bookmark. -/
  | mark
  /-- Go back to the latest bookmark. -/
  | rewind

/-- What a call gives back. -/
inductive Answer where
  /-- A character, if there is one. -/
  | character (c? : Option Char)
  /-- Whether no character is left. -/
  | atEnd (ended : Bool)
  /-- A part of the text. -/
  | text (text : String)
  /-- Nothing but that it is done. -/
  | done

/-- Answer a call. -/
def answer (cursor : Cursor) : Call → Answer × Cursor
  | .next => (.character cursor.next?.1, cursor.next?.2)
  | .peek => (.character cursor.peek?, cursor)
  | .atEnd => (.atEnd cursor.atEnd, cursor)
  | .slice first last => (.text (cursor.slice first last), cursor)
  | .readWhile accepts => (.text (cursor.readWhile accepts).1, (cursor.readWhile accepts).2)
  | .mark => (.done, cursor.mark)
  | .rewind => (.done, cursor.rewind)

/-- The cursor behind some calls. -/
def after (cursor : Cursor) (calls : List Call) : Cursor :=
  calls.foldl (fun cursor call => (cursor.answer call).2) cursor

/-- Calls lead to the cursor from the start of the text. -/
def Reachable (text : String) (cursor : Cursor) : Prop :=
  ∃ calls, (start text).after calls = cursor

/-- The characters that are given back. -/
def Answer.characters : Answer → List Char
  | .character c? => c?.toList
  | .text part => part.toList
  | .atEnd _ | .done => []

/-- The call reads characters. -/
def Call.reads : Call → Bool
  | .next | .readWhile _ => true
  | _ => false

/-- The call sets or drops a bookmark. -/
def Call.isBracket : Call → Bool
  | .mark | .rewind => true
  | _ => false

/-- Calls that drop every bookmark that they set and no other one: setting a bookmark and going back
to it match like brackets. -/
inductive Balanced : List Call → Prop where
  | nil : Balanced []
  | plain {call : Call} {later : List Call} (noBracket : call.isBracket = false)
      (balanced : Balanced later) : Balanced (call :: later)
  | nested {inside later : List Call} (inner : Balanced inside) (outer : Balanced later) :
      Balanced (.mark :: (inside ++ .rewind :: later))

theorem after_append (cursor : Cursor) (calls later : List Call) :
    cursor.after (calls ++ later) = (cursor.after calls).after later :=
  List.foldl_append

/-! ## What a call passes over -/

/-- The call moves the cursor over a run of characters, which it gives back if it reads. -/
structure Passes (call : Call) (cursor : Cursor) (run : List Char) : Prop where
  /-- The run comes next. -/
  ahead : run <+: cursor.remaining
  /-- The cursor stands behind it, and nothing else changes. -/
  after : (cursor.answer call).2 = { cursor with position := cursor.position + run.length }
  /-- The run is what is read. -/
  given : call.reads = true → (cursor.answer call).1.characters = run

theorem toList_peek? (cursor : Cursor) : cursor.peek?.toList = cursor.remaining.take 1 := by
  rw [List.take_one, remaining, List.head?_drop]
  rfl

theorem next?_eq (cursor : Cursor) :
    cursor.next? =
      (cursor.peek?, { cursor with
        position := cursor.position + cursor.peek?.toList.length }) := by
  cases peeked : cursor.peek? with
  | none => exact next?_eq_none peeked
  | some c => exact next?_of_peek? peeked

/-- A call passes over a run, an empty one if it only asks for something, or it is about a
bookmark. -/
theorem passes_or_bracket (cursor : Cursor) (call : Call) :
    (∃ run, Passes call cursor run) ∨ call = .mark ∨ call = .rewind := by
  cases call with
  | next =>
      refine .inl ⟨cursor.peek?.toList, ?_, ?_, fun _ => ?_⟩
      · rw [toList_peek?]
        exact List.take_prefix 1 cursor.remaining
      · rw [answer, next?_eq]
      · rw [answer, next?_eq]
        rfl
  | readWhile accepts =>
      exact .inl ⟨_, List.takeWhile_prefix accepts, rfl, fun _ => String.toList_ofList⟩
  | peek | atEnd | slice => exact .inl ⟨[], List.nil_prefix, rfl, nofun⟩
  | mark => exact .inr (.inl rfl)
  | rewind => exact .inr (.inr rfl)

/-- A part of the text that starts at the cursor consists of what comes next. -/
theorem toList_slice_ahead (count : Nat) (cursor : Cursor) :
    (cursor.slice cursor.position (cursor.position + count)).toList =
      cursor.remaining.take count := by
  rw [slice, String.toList_ofList, remaining, List.drop_take, Nat.add_sub_cancel_left]

/-- A call that reads gives the part of the text between the positions before and after it. -/
theorem characters_answer {call : Call} (reads : call.reads = true) (cursor : Cursor) :
    (cursor.answer call).1.characters =
      (cursor.slice cursor.position (cursor.answer call).2.position).toList := by
  rcases passes_or_bracket cursor call with ⟨run, passes⟩ | rfl | rfl
  · rw [passes.given reads, passes.after, toList_slice_ahead]
    exact List.prefix_iff_eq_take.mp passes.ahead
  · cases reads
  · cases reads

/-! ## Within the text -/

/-- The cursor and its bookmarks stand within the text. -/
structure Within (text : String) (cursor : Cursor) : Prop where
  /-- The text is the one that is read. -/
  source : cursor.source = text.toList
  /-- No more characters are read than there are. -/
  position : cursor.position ≤ text.length
  /-- The same goes for every position to go back to. -/
  bookmarks : ∀ bookmark ∈ cursor.bookmarks, bookmark ≤ text.length

namespace Within

variable {text : String} {cursor : Cursor}

theorem start (text : String) : (start text).Within text where
  source := rfl
  position := Nat.zero_le text.length
  bookmarks := nofun

theorem mark (within : cursor.Within text) : cursor.mark.Within text where
  source := within.source
  position := within.position
  bookmarks := List.forall_mem_cons.mpr ⟨within.position, within.bookmarks⟩

theorem rewind (within : cursor.Within text) : cursor.rewind.Within text := by
  obtain ⟨source, position, bookmarks⟩ := cursor
  cases bookmarks with
  | nil => exact within
  | cons bookmark earlier =>
      obtain ⟨inside, others⟩ := List.forall_mem_cons.mp within.bookmarks
      exact { source := within.source, position := inside, bookmarks := others }

theorem passes {call : Call} {run : List Char} (within : cursor.Within text)
    (passes : Passes call cursor run) : (cursor.answer call).2.Within text := by
  have shorter := passes.ahead.length_le
  have position := within.position
  rw [length_remaining, length, within.source, String.length_toList] at shorter
  rw [passes.after]
  exact { source := within.source, position := by simp only; omega, bookmarks := within.bookmarks }

/-- No call leads out of the text. -/
theorem answer (within : cursor.Within text) (call : Call) :
    (cursor.answer call).2.Within text := by
  rcases passes_or_bracket cursor call with ⟨run, passes⟩ | rfl | rfl
  · exact within.passes passes
  · exact within.mark
  · exact within.rewind

theorem after (within : cursor.Within text) (calls : List Call) :
    (cursor.after calls).Within text := by
  induction calls generalizing cursor with
  | nil => exact within
  | cons call calls induction => exact induction (within.answer call)

end Within

/-! ## Going back -/

theorem source_rewind (cursor : Cursor) : cursor.rewind.source = cursor.source := by
  unfold rewind
  split <;> rfl

theorem source_answer (cursor : Cursor) (call : Call) :
    (cursor.answer call).2.source = cursor.source := by
  rcases passes_or_bracket cursor call with ⟨run, passes⟩ | rfl | rfl
  · rw [passes.after]
  · rfl
  · exact source_rewind cursor

theorem source_after (cursor : Cursor) (calls : List Call) :
    (cursor.after calls).source = cursor.source := by
  induction calls generalizing cursor with
  | nil => rfl
  | cons call calls induction => exact (induction _).trans (source_answer cursor call)

/-- Whatever was done since a bookmark was set, going back undoes it if that bookmark is the latest
one again. -/
theorem rewind_after {cursor : Cursor} {calls : List Call}
    (kept : (cursor.mark.after calls).bookmarks = cursor.mark.bookmarks) :
    (cursor.mark.after calls).rewind = cursor := by
  have source := source_after cursor.mark calls
  generalize cursor.mark.after calls = later at source kept ⊢
  obtain ⟨_, position, _⟩ := later
  subst source kept
  rfl

theorem bookmarks_answer {call : Call} (noBracket : call.isBracket = false) (cursor : Cursor) :
    (cursor.answer call).2.bookmarks = cursor.bookmarks := by
  rcases passes_or_bracket cursor call with ⟨run, passes⟩ | rfl | rfl
  · rw [passes.after]
  · cases noBracket
  · cases noBracket

namespace Balanced

variable {calls : List Call}

/-- Balanced calls leave the bookmarks as they were. -/
theorem bookmarks_after (balanced : Balanced calls) (cursor : Cursor) :
    (cursor.after calls).bookmarks = cursor.bookmarks := by
  induction balanced generalizing cursor with
  | nil => rfl
  | plain noBracket _ induction =>
      exact (induction _).trans (bookmarks_answer noBracket cursor)
  | @nested inside later _ _ inner outer =>
      -- The calls inside leave this bookmark the latest, so the rest starts from the same cursor.
      have split : cursor.after (.mark :: (inside ++ .rewind :: later)) =
          (cursor.mark.after inside).rewind.after later := after_append cursor.mark inside _
      rw [split, rewind_after (inner cursor.mark)]
      exact outer cursor

/-- Between a bookmark that is set and going back to it, balanced calls change nothing. -/
theorem after_enclosed (balanced : Balanced calls) (cursor : Cursor) :
    cursor.after (.mark :: (calls ++ [.rewind])) = cursor := by
  have split : cursor.after (.mark :: (calls ++ [.rewind])) = (cursor.mark.after calls).rewind :=
    after_append cursor.mark calls [.rewind]
  rw [split]
  exact rewind_after (balanced.bookmarks_after cursor.mark)

end Balanced

theorem rewind_of_no_bookmark {cursor : Cursor} (none : cursor.bookmarks = []) :
    cursor.rewind = cursor := by
  rw [rewind, none]

/-- Wherever calls lead a cursor from the start of a text, it stands within this text, and so do its
bookmarks; a call that reads gives the part of the text between the positions before and after it;
setting a bookmark and going back is undone, whatever balanced calls come in between; and without a
bookmark going back does nothing. -/
theorem Reachable.faithful {text : String} {cursor : Cursor} (reachable : cursor.Reachable text) :
    cursor.Within text ∧
      (∀ call, call.reads = true →
        (cursor.answer call).1.characters =
          (cursor.slice cursor.position (cursor.answer call).2.position).toList) ∧
      (∀ calls, Balanced calls → cursor.after (.mark :: (calls ++ [.rewind])) = cursor) ∧
      (cursor.bookmarks = [] → cursor.after [.rewind] = cursor) := by
  obtain ⟨calls, rfl⟩ := reachable
  refine ⟨(Within.start text).after calls, ?_, ?_, ?_⟩
  · intro call reads
    exact characters_answer reads _
  · intro inside balanced
    exact balanced.after_enclosed _
  · intro none
    exact rewind_of_no_bookmark none

/-- A cursor behind the first character of a text, with a bookmark there. -/
private def bookmarked : Cursor :=
  { source := "é|b".toList, position := 1, bookmarks := [1] }

/-- Bookmarks set while others are kept, at the end of the text too, and a cursor without any. -/
theorem Reachable.faithful_nested :
    bookmarked.Reachable "é|b" ∧ bookmarked.Within "é|b" ∧
      (Call.readWhile (· != 'b')).reads = true ∧
      (bookmarked.answer (.readWhile (· != 'b'))).1.characters =
        (bookmarked.slice 1 2).toList ∧
      Balanced [.readWhile (· != 'b'), .mark, .next, .mark, .next, .rewind, .rewind, .peek] ∧
      bookmarked.after [.mark, .readWhile (· != 'b'), .mark, .next, .mark, .next, .rewind, .rewind,
        .peek, .rewind] = bookmarked ∧
      (start "é|b").Reachable "é|b" ∧ (start "é|b").bookmarks = [] ∧
      (start "é|b").after [.rewind] = start "é|b" := by
  have reachable : bookmarked.Reachable "é|b" := ⟨[.next, .mark], by decide +kernel⟩
  have fresh : (start "é|b").Reachable "é|b" := ⟨[], rfl⟩
  have inner : Balanced [.next, .mark, .next, .rewind] :=
    .plain rfl (.nested (.plain rfl .nil) .nil)
  have balanced : Balanced [.readWhile (· != 'b'), .mark, .next, .mark, .next, .rewind, .rewind,
      .peek] := .plain rfl (.nested inner (.plain rfl .nil))
  obtain ⟨within, reading, back, -⟩ := reachable.faithful
  exact ⟨reachable, within, rfl, reading (.readWhile (· != 'b')) rfl, balanced, back _ balanced,
    fresh, rfl, fresh.faithful.2.2.2 rfl⟩

end Cursor
end Text
end PipeQuery

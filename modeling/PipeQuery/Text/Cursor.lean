/-!
# A cursor over a text

A cursor holds the whole text, the number of characters already read and a stack of bookmarks.
Positions count characters.  Reading moves the position forward only; going back is possible to a
bookmark alone.
-/

namespace PipeQuery
namespace Text

/-- A reading position in a text, with the bookmarks set so far, the latest first. -/
structure Cursor where
  /-- The whole text; no operation changes it. -/
  source : List Char
  /-- Number of characters read. -/
  position : Nat
  /-- Positions to go back to, the latest first. -/
  bookmarks : List Nat
  deriving DecidableEq, Repr

namespace Cursor

/-- The cursor in front of a text. -/
def start (text : String) : Cursor :=
  { source := text.toList, position := 0, bookmarks := [] }

/-- The characters still to be read. -/
def remaining (cursor : Cursor) : List Char :=
  cursor.source.drop cursor.position

/-- The number of characters of the whole text. -/
def length (cursor : Cursor) : Nat :=
  cursor.source.length

/-- The whole text has no character. -/
def isEmpty (cursor : Cursor) : Bool :=
  cursor.source.isEmpty

/-- No character is left to read. -/
def atEnd (cursor : Cursor) : Bool :=
  cursor.length ≤ cursor.position

/-- The next character, which stays unread. -/
def peek? (cursor : Cursor) : Option Char :=
  cursor.source[cursor.position]?

/-- Read one character; at the end nothing is read and the cursor stays. -/
def next? (cursor : Cursor) : Option Char × Cursor :=
  match cursor.peek? with
  | some c => (some c, { cursor with position := cursor.position + 1 })
  | none => (none, cursor)

/-- Read the longest run of characters that `accepts` admits. -/
def readWhile (accepts : Char → Bool) (cursor : Cursor) : String × Cursor :=
  let run := cursor.remaining.takeWhile accepts
  (String.ofList run, { cursor with position := cursor.position + run.length })

/-- The characters from `first` up to but not including `last`, both clamped to the text. -/
def slice (first last : Nat) (cursor : Cursor) : String :=
  String.ofList ((cursor.source.take last).drop first)

/-- Set a bookmark at the present position. -/
def mark (cursor : Cursor) : Cursor :=
  { cursor with bookmarks := cursor.position :: cursor.bookmarks }

/-- Go back to the latest bookmark and drop it; without one the cursor stays. -/
def rewind (cursor : Cursor) : Cursor :=
  match cursor.bookmarks with
  | position :: earlier => { cursor with position, bookmarks := earlier }
  | [] => cursor

/-- Read `count` characters, or all that are left. -/
def advance (count : Nat) (cursor : Cursor) : Cursor :=
  match count with
  | 0 => cursor
  | count + 1 => advance count cursor.next?.2

theorem next?_of_peek? {cursor : Cursor} {c : Char} (peeked : cursor.peek? = some c) :
    cursor.next? = (some c, { cursor with position := cursor.position + 1 }) := by
  simp [next?, peeked]

theorem next?_eq_none {cursor : Cursor} (peeked : cursor.peek? = none) :
    cursor.next? = (none, cursor) := by
  simp [next?, peeked]

theorem length_remaining (cursor : Cursor) :
    cursor.remaining.length = cursor.length - cursor.position := by
  simp [remaining, length]

end Cursor
end Text
end PipeQuery

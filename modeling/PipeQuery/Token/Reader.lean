import PipeQuery.Text.Cursor
import PipeQuery.Token.Scan

/-!
# Reading tokens on demand

A token reader takes tokens from a cursor one at a time and can look one token ahead.  The token
looked at waits in the reader until it is taken, so looking again costs nothing and taking it does
not move the cursor.
-/

namespace PipeQuery

/-- A cursor together with the token looked at but not yet taken. -/
structure TokenReader where
  /-- Where the next token is read. -/
  cursor : Text.Cursor
  /-- The token already read and not yet taken. -/
  lookahead : Option Token
  /-- An unclosed text counts as a token. -/
  tolerant : Bool
  /-- Iteration met a fault. -/
  stopped : Bool
  deriving DecidableEq, Repr

namespace TokenReader

/-- A strict reader that continues at a cursor. -/
def ofCursor (cursor : Text.Cursor) : TokenReader :=
  { cursor, lookahead := none, tolerant := false, stopped := false }

/-- A strict reader at the start of a text. -/
def ofText (text : String) : TokenReader :=
  ofCursor (Text.Cursor.start text)

/-- Say whether an unclosed text counts as a token. -/
def withTolerance (tolerant : Bool) (reader : TokenReader) : TokenReader :=
  { reader with tolerant }

/-- Read the next token from the cursor, whatever is looked at. -/
def scan (reader : TokenReader) : Except LexicalFault (Option Token) × TokenReader :=
  let scan := Token.scan reader.tolerant reader.cursor.position reader.cursor.remaining
  (scan.outcome, { reader with cursor.position := scan.offset })

/-- Look at the next token without taking it. -/
def peek (reader : TokenReader) : Except LexicalFault (Option Token) × TokenReader :=
  match reader.lookahead with
  | some token => (.ok (some token), reader)
  | none =>
      match reader.scan with
      | (.ok token, reader') => (.ok token, { reader' with lookahead := token })
      | (.error fault, reader') => (.error fault, reader')

/-- Take the next token. -/
def next (reader : TokenReader) : Except LexicalFault (Option Token) × TokenReader :=
  match reader.lookahead with
  | some token => (.ok (some token), { reader with lookahead := none })
  | none => reader.scan

/-- Whether no token is left, found by looking ahead. -/
def atEnd (reader : TokenReader) : Except LexicalFault Bool × TokenReader :=
  let (outcome, reader') := reader.peek
  (outcome.map Option.isNone, reader')

/-- Take the next token as an iterator does: once this has met a fault nothing follows. -/
def iterate (reader : TokenReader) : Except LexicalFault (Option Token) × TokenReader :=
  if reader.stopped then (.ok none, reader)
  else
    match reader.next with
    | (.ok token, reader') => (.ok token, reader')
    | (.error fault, reader') => (.error fault, { reader' with stopped := true })

/-- Read the body of a quoted text at the cursor; the token looked at stays. -/
def readBody (keepEscapes quoteRequired : Bool) (reader : TokenReader) :
    Except LexicalFault String × TokenReader :=
  let body := Text.Quoted.read keepEscapes reader.cursor.remaining
  let outcome :=
    if body.closed || !quoteRequired then .ok (String.ofList body.value)
    else .error .unclosedString
  (outcome, { reader with cursor.position := reader.cursor.position + body.width })

/-- Number of characters that the reader has still to turn into taken tokens, a token looked at
counting for one. -/
def pending (reader : TokenReader) : Nat :=
  reader.cursor.remaining.length + if reader.lookahead.isSome then 1 else 0

theorem pending_scan_lt {reader : TokenReader} {token : Token}
    (made : reader.scan.1 = .ok (some token)) (empty : reader.lookahead = none) :
    reader.scan.2.pending < reader.pending := by
  have shorter := Scan.length_rest_lt made
  have counted := Scan.offset_add_length_rest reader.tolerant reader.cursor.position
    reader.cursor.remaining
  have remaining := Text.Cursor.length_remaining reader.cursor
  simp only [scan, pending, empty, Text.Cursor.length_remaining, Option.isSome_none,
    Bool.false_eq_true, if_false]
  simp only [Text.Cursor.length] at *
  omega

theorem pending_next_lt {reader : TokenReader} {token : Token}
    (made : reader.next.1 = .ok (some token)) : reader.next.2.pending < reader.pending := by
  unfold next at made ⊢
  cases waiting : reader.lookahead with
  | some token => simp [pending, waiting]
  | none =>
      simp only [waiting] at made ⊢
      exact pending_scan_lt made waiting

theorem pending_iterate_lt {reader : TokenReader} {token : Token}
    (made : reader.iterate.1 = .ok (some token)) :
    reader.iterate.2.pending < reader.pending := by
  unfold iterate at made ⊢
  split at made
  · simp at made
  · next running =>
      simp only [running]
      cases taken : reader.next with
      | mk outcome reader' =>
          rw [taken] at made
          cases outcome with
          | ok token? =>
              have shorter := pending_next_lt ((congrArg Prod.fst taken).trans made)
              rw [taken] at shorter
              exact shorter
          | error fault => cases made

/-- Iterate to the end: the tokens, the fault that ended them, and the reader afterwards. -/
def drain (reader : TokenReader) : List Token × Option LexicalFault × TokenReader :=
  match _ : reader.iterate.1 with
  | .ok (some token) =>
      let (tokens, ending) := drain reader.iterate.2
      (token :: tokens, ending)
  | .ok none => ([], none, reader.iterate.2)
  | .error fault => ([], some fault, reader.iterate.2)
  termination_by reader.pending
  decreasing_by exact pending_iterate_lt ‹_›

end TokenReader
end PipeQuery

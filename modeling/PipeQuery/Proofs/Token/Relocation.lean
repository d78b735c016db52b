import PipeQuery.Token.Stream

/-!
# Tokens at other places

A relocation sends every offset to another one and leaves kinds and values alone.  The main
statement here is `TokenStream.readFrom_add`: a text read further to the right has the same tokens
and the same fault, relocated.
-/

namespace PipeQuery

/-- The same token at another place. -/
def Token.relocate (place : Nat → Nat) (token : Token) : Token :=
  { token with pos := place token.pos }

/-- The same fault at another place. -/
def LexicalFault.relocate (place : Nat → Nat) : LexicalFault → LexicalFault
  | unlexable character offset => unlexable character (place offset)
  | unclosedString => unclosedString

/-- The same tokens and the same fault at other places. -/
def TokenStream.relocate (place : Nat → Nat) (stream : TokenStream) : TokenStream :=
  { tokens := stream.tokens.map (Token.relocate place)
    fault := stream.fault.map (LexicalFault.relocate place) }

namespace Token

@[simp]
theorem relocate_kind (place : Nat → Nat) (token : Token) :
    (token.relocate place).kind = token.kind := rfl

@[simp]
theorem relocate_value (place : Nat → Nat) (token : Token) :
    (token.relocate place).value = token.value := rfl

@[simp]
theorem relocate_isText (place : Nat → Nat) (token : Token) :
    (token.relocate place).isText = token.isText := rfl

end Token

theorem LexicalFault.column_relocate (place : Nat → Nat) (length : Nat) (fault : LexicalFault) :
    (fault.relocate place).column (place length) = place (fault.column length) := by
  cases fault <;> rfl

namespace Scan

/-- The same finding `distance` characters further to the right. -/
private def shift (distance : Nat) (scan : Scan) : Scan :=
  { outcome :=
      match scan.outcome with
      | .ok token => .ok (token.map (Token.relocate (· + distance)))
      | .error fault => .error (fault.relocate (· + distance))
    offset := scan.offset + distance
    rest := scan.rest }

private theorem plain_add (kind : TokenKind) (value : List Char) (offset distance : Nat)
    (rest : List Char) :
    plain kind value (offset + distance) rest = (plain kind value offset rest).shift distance := by
  simp [plain, shift, Token.relocate]
  omega

private theorem quoted_add (tolerant : Bool) (offset distance : Nat) (text : List Char) :
    quoted tolerant (offset + distance) text = (quoted tolerant offset text).shift distance := by
  simp only [quoted, shift]
  split
  · simp [Token.relocate]
    omega
  · simp [LexicalFault.relocate]
    omega

private theorem comparison_add (offset distance : Nat) (c : Char) (rest : List Char) :
    comparison (offset + distance) c rest = (comparison offset c rest).shift distance := by
  unfold comparison
  split
  · split <;> exact plain_add ..
  · exact plain_add ..

private theorem begin_add (tolerant : Bool) (offset distance : Nat) (c : Char)
    (rest : List Char) :
    begin tolerant (offset + distance) c rest = (begin tolerant offset c rest).shift distance := by
  unfold begin
  split
  iterate 4 exact plain_add ..
  · rw [show offset + distance + 1 = offset + 1 + distance by omega]
    exact quoted_add ..
  · split
    · exact comparison_add ..
    · split
      · rfl
      · exact plain_add ..

private theorem scan_add (tolerant : Bool) (offset distance : Nat) (text : List Char) :
    Token.scan tolerant (offset + distance) text =
      (Token.scan tolerant offset text).shift distance := by
  induction text generalizing offset with
  | nil => rfl
  | cons c rest induction =>
      unfold Token.scan
      split
      · rw [show offset + distance + 1 = offset + 1 + distance by omega]
        exact induction (offset + 1)
      · exact begin_add ..

end Scan

namespace TokenStream

theorem relocate_push (place : Nat → Nat) (token : Token) (stream : TokenStream) :
    (stream.push token).relocate place = (stream.relocate place).push (token.relocate place) := rfl

/-- A text read further to the right has the same tokens and the same fault there. -/
theorem readFrom_add (tolerant : Bool) (offset distance : Nat) (text : List Char) :
    readFrom tolerant (offset + distance) text =
      (readFrom tolerant offset text).relocate (· + distance) := by
  fun_induction readFrom tolerant offset text with
  | case1 offset text token made induction =>
      have moved := Scan.scan_add tolerant offset distance text
      have made' : (Token.scan tolerant (offset + distance) text).outcome =
          .ok (some (token.relocate (· + distance))) := by
        rw [moved]
        simp [Scan.shift, made]
      rw [readFrom_of_token made', moved, relocate_push]
      congr 1
  | case2 offset text made =>
      have moved := Scan.scan_add tolerant offset distance text
      exact readFrom_of_end (by rw [moved]; simp [Scan.shift, made])
  | case3 offset text fault made =>
      have moved := Scan.scan_add tolerant offset distance text
      exact readFrom_of_fault (by rw [moved]; simp [Scan.shift, made])

end TokenStream
end PipeQuery

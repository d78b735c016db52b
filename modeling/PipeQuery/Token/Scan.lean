import PipeQuery.Text.Character
import PipeQuery.Text.Quoted
import PipeQuery.Fault
import PipeQuery.Token

/-!
# One token

Reading a token passes over blanks and then takes the longest token that the next character
begins.  At a control character the reading stops in front of it, and in an unclosed text at the
end.  The main statements here say that no character is lost (`Scan.offset_add_length_rest`) and
that a token takes at least one (`Scan.length_rest_lt`).
-/

namespace PipeQuery

/-- What reading one token finds. -/
structure Scan where
  /-- The token, nothing at the end of the text, or a fault. -/
  outcome : Except LexicalFault (Option Token)
  /-- Offset at which reading stopped. -/
  offset : Nat
  /-- The characters still unread. -/
  rest : List Char

namespace Scan

/-- A token whose characters are its value. -/
def plain (kind : TokenKind) (value : List Char) (offset : Nat) (rest : List Char) : Scan :=
  { outcome := .ok (some { kind, value := String.ofList value, pos := offset })
    offset := offset + value.length
    rest }

/-- A quoted text whose body starts at `offset`. -/
def quoted (tolerant : Bool) (offset : Nat) (text : List Char) : Scan :=
  let body := Text.Quoted.read false text
  { outcome :=
      if body.closed || tolerant then
        .ok (some { kind := .string, value := String.ofList body.value, pos := offset })
      else
        .error .unclosedString
    offset := offset + body.width
    rest := body.rest }

/-- An operator; some comparison symbols take a following equals sign along. -/
def comparison (offset : Nat) (c : Char) (rest : List Char) : Scan :=
  match rest with
  | '=' :: rest' =>
      if Text.absorbsEquals c then plain .operator [c, '='] offset rest'
      else plain .operator [c] offset rest
  | _ => plain .operator [c] offset rest

/-- A word with the first character `c`. -/
def word (offset : Nat) (c : Char) (rest : List Char) : Scan :=
  plain .ident (c :: rest.takeWhile Text.isWord) offset (rest.dropWhile Text.isWord)

/-- The token that the character `c`, no blank, begins. -/
def begin (tolerant : Bool) (offset : Nat) (c : Char) (rest : List Char) : Scan :=
  match c with
  | '|' => plain .pipe [c] offset rest
  | '(' => plain .openParen [c] offset rest
  | ')' => plain .closeParen [c] offset rest
  | ',' => plain .comma [c] offset rest
  | '"' => quoted tolerant (offset + 1) rest
  | _ =>
      if Text.isComparison c then comparison offset c rest
      else if Text.isControl c then
        { outcome := .error (.unlexable c offset), offset, rest := c :: rest }
      else word offset c rest

end Scan

/-- Read one token of a text that starts at `offset`.  A tolerant reading takes an unclosed text
for a token. -/
def Token.scan (tolerant : Bool) (offset : Nat) : List Char → Scan
  | [] => { outcome := .ok none, offset, rest := [] }
  | c :: rest =>
      if Text.isBlank c then Token.scan tolerant (offset + 1) rest
      else Scan.begin tolerant offset c rest

namespace Scan

private theorem offset_add_length_rest_quoted (tolerant : Bool) (offset : Nat)
    (text : List Char) :
    (quoted tolerant offset text).offset + (quoted tolerant offset text).rest.length =
      offset + text.length := by
  have := Text.Quoted.width_add_length_rest false text
  simp only [quoted]
  omega

private theorem offset_add_length_rest_comparison (offset : Nat) (c : Char) (rest : List Char) :
    (comparison offset c rest).offset + (comparison offset c rest).rest.length =
      offset + (rest.length + 1) := by
  unfold comparison
  split
  · split <;> simp [plain] <;> omega
  · simp [plain]; omega

private theorem length_takeWhile_add_length_dropWhile (accepts : Char → Bool)
    (text : List Char) :
    (text.takeWhile accepts).length + (text.dropWhile accepts).length = text.length := by
  rw [← List.length_append, List.takeWhile_append_dropWhile]

theorem offset_add_length_rest_begin (tolerant : Bool) (offset : Nat) (c : Char)
    (rest : List Char) :
    (begin tolerant offset c rest).offset + (begin tolerant offset c rest).rest.length =
      offset + (rest.length + 1) := by
  unfold begin
  split
  iterate 4 simp [plain]; omega
  · rw [offset_add_length_rest_quoted]; omega
  · split
    · exact offset_add_length_rest_comparison offset c rest
    · split
      · simp
      · have := length_takeWhile_add_length_dropWhile Text.isWord rest
        simp [word, plain]
        omega

/-- Reading a token loses no character: what it passes over is counted. -/
theorem offset_add_length_rest (tolerant : Bool) (offset : Nat) (text : List Char) :
    (Token.scan tolerant offset text).offset + (Token.scan tolerant offset text).rest.length =
      offset + text.length := by
  induction text generalizing offset with
  | nil => rfl
  | cons c rest induction =>
      unfold Token.scan
      split
      · rw [induction, List.length_cons]; omega
      · rw [offset_add_length_rest_begin, List.length_cons]

private theorem length_rest_begin_lt {tolerant : Bool} {offset : Nat} {c : Char}
    {rest : List Char} {token : Token}
    (made : (begin tolerant offset c rest).outcome = .ok (some token)) :
    (begin tolerant offset c rest).rest.length < rest.length + 1 := by
  have counted := offset_add_length_rest_begin tolerant offset c rest
  suffices offset < (begin tolerant offset c rest).offset by omega
  revert made
  unfold begin
  split
  iterate 4 simp [plain]
  · simp [quoted]; omega
  · split
    · unfold comparison
      split
      · split <;> simp [plain]
      · simp [plain]
    · split
      · simp
      · simp [word, plain]

/-- A token takes at least one character. -/
theorem length_rest_lt {tolerant : Bool} {offset : Nat} {text : List Char} {token : Token}
    (made : (Token.scan tolerant offset text).outcome = .ok (some token)) :
    (Token.scan tolerant offset text).rest.length < text.length := by
  induction text generalizing offset with
  | nil => simp [Token.scan] at made
  | cons c rest induction =>
      unfold Token.scan at made ⊢
      split at made
      · next blank =>
          simp only [blank, if_true, List.length_cons]
          have := induction made
          omega
      · next blank =>
          simp only [blank]
          exact length_rest_begin_lt made

end Scan
end PipeQuery

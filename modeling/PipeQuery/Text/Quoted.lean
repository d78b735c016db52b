/-!
# Quoted texts

The body of a quoted text runs up to the first quote that no escape sign protects.  An escape sign
protects the character after it, whatever that is, and escape signs are paired from the left.
Reading says which characters the body stands for, whether its closing quote was found and what is
left; writing protects exactly the quotes and the escape signs.
-/

namespace PipeQuery
namespace Text
namespace Quoted

/-- The sign that opens and closes a quoted text. -/
def quote : Char := '"'

/-- The sign that protects the character after it. -/
def escapeSign : Char := '\\'

/-- What reading a body finds. -/
structure Body where
  /-- The characters that the body stands for. -/
  value : List Char
  /-- Number of characters read, the closing quote included. -/
  width : Nat
  /-- The closing quote was found. -/
  closed : Bool
  /-- The characters after the body and its closing quote. -/
  rest : List Char
  deriving DecidableEq, Repr

namespace Body

/-- Put characters in front of a body that took `width` characters to write. -/
def push (characters : List Char) (width : Nat) (body : Body) : Body :=
  { body with value := characters ++ body.value, width := width + body.width }

end Body

/-- Read a body up to its closing quote or to the end of the text.  With `keepEscapes` the escape
signs that protect a character stay in the value.  An escape sign at the very end protects nothing
and is dropped. -/
def read (keepEscapes : Bool) : List Char → Body
  | [] => { value := [], width := 0, closed := false, rest := [] }
  | '"' :: rest => { value := [], width := 1, closed := true, rest }
  | ['\\'] => { value := [], width := 1, closed := false, rest := [] }
  | '\\' :: c :: rest =>
      (read keepEscapes rest).push (if keepEscapes then ['\\', c] else [c]) 2
  | c :: rest => (read keepEscapes rest).push [c] 1

/-- Protect every quote and every escape sign. -/
def write : List Char → List Char
  | [] => []
  | c :: rest =>
      if c = quote ∨ c = escapeSign then escapeSign :: c :: write rest else c :: write rest

/-- A body is what was read and what is left. -/
theorem width_add_length_rest (keepEscapes : Bool) (text : List Char) :
    (read keepEscapes text).width + (read keepEscapes text).rest.length = text.length := by
  fun_induction read keepEscapes text <;> simp_all [Body.push] <;> omega

/-- A closed body takes at least its closing quote. -/
theorem width_pos_of_closed {keepEscapes : Bool} {text : List Char}
    (closed : (read keepEscapes text).closed = true) : 0 < (read keepEscapes text).width := by
  fun_cases read keepEscapes text
  · cases closed
  · exact Nat.one_pos
  · cases closed
  · simp only [Body.push]
    omega
  · simp only [Body.push]
    omega

/-- An unclosed body leaves nothing. -/
theorem rest_eq_nil_of_not_closed (keepEscapes : Bool) (text : List Char)
    (unclosed : (read keepEscapes text).closed = false) :
    (read keepEscapes text).rest = [] := by
  fun_induction read keepEscapes text <;> simp_all [Body.push]

end Quoted
end Text
end PipeQuery

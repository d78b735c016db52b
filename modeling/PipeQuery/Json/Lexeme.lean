import PipeQuery.Json.Quoting
import PipeQuery.Number.Numeral
import PipeQuery.Text.Character

/-!
# Lexemes of a data text

A data text is a run of marks, words, numerals and strings with blanks between them.  The blanks
carry nothing: a text and the same text with other blanks have the same lexemes.
-/

namespace PipeQuery
namespace Json

/-- The smallest parts of a data text that carry meaning. -/
inductive Lexeme where
  | openBrace
  | closeBrace
  | openBracket
  | closeBracket
  | comma
  | colon
  | null
  | bool (value : Bool)
  | number (value : Numeral)
  | string (value : Option String)
  deriving DecidableEq, Repr

namespace Lexeme

/-- The characters of a lexeme. -/
def text : Lexeme → List Char
  | openBrace => ['\x7b']
  | closeBrace => ['\x7d']
  | openBracket => ['[']
  | closeBracket => [']']
  | comma => [',']
  | colon => [':']
  | null => ['n', 'u', 'l', 'l']
  | bool true => ['t', 'r', 'u', 'e']
  | bool false => ['f', 'a', 'l', 's', 'e']
  | number value => value.text
  | string value => quoted value

/-- The string whose opening quote is already read. -/
def string? (text : List Char) : Option (Lexeme × List Char) :=
  (units? text).map fun (units, rest) =>
    (string ((TextUnit.characters? units).map String.ofList), rest)

/-- The numeral in front of a text. -/
def number? (text : List Char) : Option (Lexeme × List Char) :=
  (Numeral.read? text).map fun (value, rest) => (number value, rest)

/-- The lexeme in front of a text and what follows it. -/
def read? : List Char → Option (Lexeme × List Char)
  | '\x7b' :: rest => some (openBrace, rest)
  | '\x7d' :: rest => some (closeBrace, rest)
  | '[' :: rest => some (openBracket, rest)
  | ']' :: rest => some (closeBracket, rest)
  | ',' :: rest => some (comma, rest)
  | ':' :: rest => some (colon, rest)
  | 'n' :: 'u' :: 'l' :: 'l' :: rest => some (null, rest)
  | 't' :: 'r' :: 'u' :: 'e' :: rest => some (bool true, rest)
  | 'f' :: 'a' :: 'l' :: 's' :: 'e' :: rest => some (bool false, rest)
  | '"' :: rest => string? rest
  | text => number? text

/-- A lexeme takes at least one character. -/
theorem length_rest_read? {text rest : List Char} {lexeme : Lexeme}
    (found : read? text = some (lexeme, rest)) : rest.length < text.length := by
  unfold read? at found
  split at found
  iterate 9
    cases found
    simp only [List.length_cons]
    omega
  · simp only [string?, Option.map_eq_some_iff, Prod.mk.injEq] at found
    obtain ⟨⟨units, _⟩, found, _, rfl⟩ := found
    have := length_rest_units? found
    simp only [List.length_cons]
    omega
  · simp only [number?, Option.map_eq_some_iff, Prod.mk.injEq] at found
    obtain ⟨⟨numeral, _⟩, found, _, rfl⟩ := found
    exact Numeral.length_rest_read? found

end Lexeme

/-- The lexemes of a text; none if some part of it is no lexeme. -/
def lexemes? (text : List Char) : Option (List Lexeme) :=
  match text with
  | [] => some []
  | c :: rest =>
      if Text.isBlank c then lexemes? rest
      else
        match _ : Lexeme.read? (c :: rest) with
        | some (lexeme, rest) => (lexemes? rest).map (lexeme :: ·)
        | none => none
  termination_by text.length
  decreasing_by
    · simp
    · exact Lexeme.length_rest_read? ‹_›

end Json
end PipeQuery

import PipeQuery.Json.Basic
import PipeQuery.Json.Lexeme

/-!
# Writing a data tree

A tree has one run of lexemes; a layout only says which blanks stand in front of each.  The compact
layout has none.  The pretty layout puts every item and every member on a line of its own, indented
by two spaces for each list or object around it, and a space behind every colon.
-/

namespace PipeQuery
namespace Json

/-- How the lexemes of a tree are spaced. -/
inductive Layout where
  /-- Without blanks. -/
  | compact
  /-- One item or member on a line. -/
  | pretty
  deriving DecidableEq, Repr

namespace Layout

/-- The blanks in front of a line inside `depth` lists and objects. -/
def line (layout : Layout) (depth : Nat) : List Char :=
  match layout with
  | compact => []
  | pretty => '\n' :: List.replicate (2 * depth) ' '

/-- The blanks behind a colon. -/
def space (layout : Layout) : List Char :=
  match layout with
  | compact => []
  | pretty => [' ']

end Layout

/-- A lexeme and the blanks in front of it. -/
abbrev Placed := List Char × Lexeme

mutual

/-- The placed lexemes of a tree inside `depth` lists and objects, with `blanks` in front. -/
def placed (layout : Layout) (blanks : List Char) (depth : Nat) : Json → List Placed
  | null => [(blanks, .null)]
  | bool value => [(blanks, .bool value)]
  | number value => [(blanks, .number value)]
  | string value => [(blanks, .string value)]
  | array [] => [(blanks, .openBracket), ([], .closeBracket)]
  | array (item :: items) =>
      (blanks, .openBracket) :: placed layout (layout.line (depth + 1)) (depth + 1) item ++
        placedItems layout (depth + 1) items ++ [(layout.line depth, .closeBracket)]
  | object [] => [(blanks, .openBrace), ([], .closeBrace)]
  | object ((key, value) :: members) =>
      (blanks, .openBrace) :: (layout.line (depth + 1), .string key) :: ([], .colon) ::
        placed layout layout.space (depth + 1) value ++
        placedMembers layout (depth + 1) members ++ [(layout.line depth, .closeBrace)]

/-- The placed lexemes of the items behind the first one, each behind a comma. -/
def placedItems (layout : Layout) (depth : Nat) : List Json → List Placed
  | [] => []
  | item :: items =>
      ([], .comma) :: placed layout (layout.line depth) depth item ++
        placedItems layout depth items

/-- The placed lexemes of the members behind the first one, each behind a comma. -/
def placedMembers (layout : Layout) (depth : Nat) : List (Option String × Json) → List Placed
  | [] => []
  | (key, value) :: members =>
      ([], .comma) :: (layout.line depth, .string key) :: ([], .colon) ::
        placed layout layout.space depth value ++ placedMembers layout depth members

end

/-- The characters of placed lexemes. -/
def spell (lexemes : List Placed) : List Char :=
  lexemes.flatMap fun (blanks, lexeme) => blanks ++ lexeme.text

/-- The text of a tree. -/
def write (layout : Layout) (tree : Json) : String :=
  String.ofList (spell (placed layout [] 0 tree))

end Json
end PipeQuery

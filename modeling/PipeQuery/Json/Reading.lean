import PipeQuery.Json.Basic
import PipeQuery.Json.Lexeme

/-!
# Reading a data tree

The lexemes of a data text are taken one by one.  In between stands a stack of the lists and
objects that are open, the innermost first, and what may come next.  Every lexeme either moves
this state on or has no place where it stands, so reading is one pass whatever the depth.
-/

namespace PipeQuery
namespace Json

/-- A list or an object that is not closed yet, with its parts in reverse order. -/
inductive Unfinished where
  /-- A list. -/
  | array (items : List Json)
  /-- An object that has no key waiting for its value. -/
  | object (members : List (Option String × Json))
  /-- An object whose key `key` waits for its value. -/
  | member (members : List (Option String × Json)) (key : Option String)

/-- What may come next. -/
inductive Expected where
  /-- A value; when `closable`, the end of the list as well. -/
  | value (closable : Bool)
  /-- A key; when `closable`, the end of the object as well. -/
  | key (closable : Bool)
  /-- The colon behind a key. -/
  | colon
  /-- A comma or the end of the innermost list or object. -/
  | separator
  /-- Nothing: the tree is complete. -/
  | nothing (tree : Json)

/-- The state between two lexemes. -/
structure Progress where
  /-- The lists and objects that are open, the innermost first. -/
  unfinished : List Unfinished
  /-- What may come next. -/
  expected : Expected

namespace Progress

/-- The state in front of a text. -/
def start : Progress :=
  { unfinished := [], expected := .value false }

/-- Add a complete value to the innermost open list or object. -/
def complete? (tree : Json) : List Unfinished → Option Progress
  | [] => some { unfinished := [], expected := .nothing tree }
  | .array items :: outer =>
      some { unfinished := .array (tree :: items) :: outer, expected := .separator }
  | .member members key :: outer =>
      some { unfinished := .object ((key, tree) :: members) :: outer, expected := .separator }
  | .object _ :: _ => none

/-- Open a list. -/
def openArray (unfinished : List Unfinished) : Progress :=
  { unfinished := .array [] :: unfinished, expected := .value true }

/-- Open an object. -/
def openObject (unfinished : List Unfinished) : Progress :=
  { unfinished := .object [] :: unfinished, expected := .key true }

/-- Close the innermost list. -/
def closeArray? : List Unfinished → Option Progress
  | .array items :: outer => complete? (.array items.reverse) outer
  | _ => none

/-- Close the innermost object. -/
def closeObject? : List Unfinished → Option Progress
  | .object members :: outer => complete? (.object members.reverse) outer
  | _ => none

/-- Take a key of the innermost object. -/
def key? (key : Option String) : List Unfinished → Option Progress
  | .object members :: outer =>
      some { unfinished := .member members key :: outer, expected := .colon }
  | _ => none

/-- What follows a comma in the innermost list or object. -/
def comma? : List Unfinished → Option Progress
  | .array items :: outer =>
      some { unfinished := .array items :: outer, expected := .value false }
  | .object members :: outer =>
      some { unfinished := .object members :: outer, expected := .key false }
  | _ => none

/-- The state after one more lexeme. -/
def next? (progress : Progress) (lexeme : Lexeme) : Option Progress :=
  match progress.expected, lexeme with
  | .value _, .null => complete? .null progress.unfinished
  | .value _, .bool value => complete? (.bool value) progress.unfinished
  | .value _, .number value => complete? (.number value) progress.unfinished
  | .value _, .string value => complete? (.string value) progress.unfinished
  | .value _, .openBracket => some (openArray progress.unfinished)
  | .value _, .openBrace => some (openObject progress.unfinished)
  | .value true, .closeBracket => closeArray? progress.unfinished
  | .key _, .string key => key? key progress.unfinished
  | .key true, .closeBrace => closeObject? progress.unfinished
  | .colon, .colon => some { progress with expected := .value false }
  | .separator, .comma => comma? progress.unfinished
  | .separator, .closeBracket => closeArray? progress.unfinished
  | .separator, .closeBrace => closeObject? progress.unfinished
  | _, _ => none

/-- The state after a run of lexemes. -/
def after? (progress : Progress) (lexemes : List Lexeme) : Option Progress :=
  lexemes.foldlM next? progress

/-- The tree, once it is complete. -/
def tree? (progress : Progress) : Option Json :=
  match progress.expected with
  | .nothing tree => some tree
  | _ => none

theorem after?_append (progress : Progress) (left right : List Lexeme) :
    progress.after? (left ++ right) = (progress.after? left).bind (·.after? right) := by
  simp [after?, List.foldlM_append]

end Progress

/-- The tree of a run of lexemes. -/
def ofLexemes? (lexemes : List Lexeme) : Option Json :=
  (Progress.start.after? lexemes).bind Progress.tree?

/-- The tree of a data text; none if the text is malformed. -/
def read? (text : String) : Option Json :=
  (lexemes? text.toList).bind ofLexemes?

end Json
end PipeQuery

/-!
# Items between commas

A text falls into items at its commas: there is one item more than there are commas.
-/

namespace PipeQuery
namespace Text

/-- Put a character in front of the first item. -/
def extendFirst (c : Char) : List (List Char) → List (List Char)
  | item :: items => (c :: item) :: items
  | [] => [[c]]

/-- The items of a text, empty ones included. -/
def items : List Char → List (List Char)
  | [] => [[]]
  | c :: rest => if c = ',' then [] :: items rest else extendFirst c (items rest)

end Text
end PipeQuery

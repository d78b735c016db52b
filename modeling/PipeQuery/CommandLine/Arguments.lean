import PipeQuery.Text.Items

/-!
# Arguments of the command line

An argument is an option or the query.  Options may stand before and behind the query and in any
order.  A value stands in the argument of its option or in the next one; behind a lone double
dash every argument is the query.  The arguments are read from the left, and the first one that is
at fault, or asks for the version or for help, ends the reading.
-/

namespace PipeQuery
namespace CommandLine

/-- What the arguments ask for. -/
structure Arguments where
  /-- The items of all field lists, in order. -/
  fields : List String
  /-- The path of a file with settings. -/
  settingsPath : Option String
  /-- The answer is laid out in lines. -/
  pretty : Bool
  /-- What is logged. -/
  logLevel : Option String
  /-- The query. -/
  query : Option String
  deriving DecidableEq, Repr

/-- Why reading the arguments ended before the last of them. -/
inductive Stop where
  /-- The arguments are at fault. -/
  | misuse
  /-- The version is asked for. -/
  | version
  /-- Help is asked for. -/
  | help
  deriving DecidableEq, Repr

/-- The options that take a value. -/
inductive ValueOption where
  | fields
  | settings
  | logLevel
  deriving DecidableEq, Repr

/-- What one argument is. -/
inductive Argument where
  /-- An option with its value. -/
  | given (option : ValueOption) (value : String)
  /-- An option whose value is the next argument. -/
  | awaited (option : ValueOption)
  /-- The option for an answer in lines. -/
  | pretty
  /-- An argument that ends the reading. -/
  | stop (stop : Stop)
  /-- All further arguments are the query. -/
  | endOfOptions
  /-- The query. -/
  | query (text : String)
  deriving DecidableEq, Repr

namespace Argument

/-- The option that a long name stands for. -/
def longOption? (name : String) : Option ValueOption :=
  match name with
  | "fields" => some .fields
  | "config" => some .settings
  | "log-level" => some .logLevel
  | _ => none

/-- The option that a letter stands for. -/
def shortOption? (letter : Char) : Option ValueOption :=
  match letter with
  | 'f' => some .fields
  | 'c' => some .settings
  | _ => none

/-- An argument behind two dashes, split at its first equals sign. -/
def ofLong (name : List Char) : List Char → Argument
  | [] =>
      match longOption? (String.ofList name.reverse) with
      | some option => .awaited option
      | none =>
          match String.ofList name.reverse with
          | "pretty" => .pretty
          | "version" => .stop .version
          | "help" => .stop .help
          | _ => .stop .misuse
  | '=' :: value =>
      match longOption? (String.ofList name.reverse) with
      | some option => .given option (String.ofList value)
      | none => .stop .misuse
  | c :: rest => ofLong (c :: name) rest

/-- An argument behind one dash: a letter, and its value if anything follows.  An equals sign in
front of the value is left out. -/
def ofShort (letter : Char) (rest : List Char) : Argument :=
  match shortOption? letter with
  | some option =>
      match rest with
      | [] => .awaited option
      | '=' :: value => .given option (String.ofList value)
      | value => .given option (String.ofList value)
  | none =>
      match letter with
      | 'V' => .stop .version
      | 'h' => .stop .help
      | _ => .stop .misuse

/-- What an argument is by its first characters; a lone dash is a query. -/
def ofText (text : String) : Argument :=
  match text.toList with
  | ['-', '-'] => .endOfOptions
  | '-' :: '-' :: name => ofLong [] name
  | '-' :: letter :: rest => ofShort letter rest
  | _ => .query text

end Argument

namespace Arguments

/-- Nothing is asked for yet. -/
def empty : Arguments :=
  { fields := [], settingsPath := none, pretty := false, logLevel := none, query := none }

/-- Take the value of an option.  Only fields may be given repeatedly, and a path is not empty. -/
def withOption (arguments : Arguments) (option : ValueOption) (value : String) :
    Except Stop Arguments :=
  match option with
  | .fields =>
      .ok { arguments with
        fields := arguments.fields ++ (Text.items value.toList).map String.ofList }
  | .settings =>
      if arguments.settingsPath.isSome || value.isEmpty then .error .misuse
      else .ok { arguments with settingsPath := some value }
  | .logLevel =>
      if arguments.logLevel.isSome then .error .misuse
      else .ok { arguments with logLevel := some value }

/-- Ask for an answer in lines, which can be done once. -/
def withPretty (arguments : Arguments) : Except Stop Arguments :=
  if arguments.pretty then .error .misuse else .ok { arguments with pretty := true }

/-- Take the query, of which there is one only. -/
def withQuery (arguments : Arguments) (query : String) : Except Stop Arguments :=
  if arguments.query.isSome then .error .misuse else .ok { arguments with query := some query }

/-- Read arguments that are all the query. -/
def readQueries (arguments : Arguments) : List String → Except Stop Arguments
  | [] => .ok arguments
  | text :: rest =>
      match arguments.withQuery text with
      | .error stop => .error stop
      | .ok arguments => readQueries arguments rest

/-- Read arguments. -/
def readFrom (arguments : Arguments) : List String → Except Stop Arguments
  | [] => .ok arguments
  | text :: rest =>
      match Argument.ofText text with
      | .stop stop => .error stop
      | .endOfOptions => readQueries arguments rest
      | .query query =>
          match arguments.withQuery query with
          | .error stop => .error stop
          | .ok arguments => readFrom arguments rest
      | .pretty =>
          match arguments.withPretty with
          | .error stop => .error stop
          | .ok arguments => readFrom arguments rest
      | .given option value =>
          match arguments.withOption option value with
          | .error stop => .error stop
          | .ok arguments => readFrom arguments rest
      | .awaited option =>
          match rest with
          | [] => .error .misuse
          | value :: rest =>
              match Argument.ofText value with
              | .query value =>
                  match arguments.withOption option value with
                  | .error stop => .error stop
                  | .ok arguments => readFrom arguments rest
              | _ => .error .misuse

/-- Read all arguments of a command line. -/
def read (texts : List String) : Except Stop Arguments :=
  readFrom empty texts

end Arguments
end CommandLine
end PipeQuery

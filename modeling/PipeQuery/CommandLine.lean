import PipeQuery.CommandLine.Arguments
import PipeQuery.CommandLine.LogFilter
import PipeQuery.Query.Wire
import PipeQuery.Settings.Wire

/-!
# The command line

The command reads one query and prints its clauses.  The fields are those of the settings file and
of the field lists together.  Everything but the look at the file is a function of the arguments and
of a variable of the environment, whose filter for the log takes the place of theirs if it is valid.
Notices about the filter of the arguments come first, whatever the answer to the query is.
-/

namespace PipeQuery
namespace CommandLine

/-- The name under which the command shows itself. -/
def program : String := "vquery"

/-- The name and the version of the command. -/
def versionLine : String := program ++ " 0.1.0\n"

/-- Why the settings cannot be used. -/
inductive SettingsFault where
  /-- The file cannot be read. -/
  | unreadable
  /-- The file holds no settings. -/
  | malformed
  deriving DecidableEq, Repr

namespace SettingsFault

/-- What is logged. -/
def message : SettingsFault → String
  | unreadable => "failed to read"
  | malformed => "invalid config"

end SettingsFault

/-- How the command ends. -/
inductive Answer where
  /-- The text is printed. -/
  | printed (text : String)
  /-- The help text is printed. -/
  | helped
  /-- The query is refused with the text. -/
  | refused (text : String)
  /-- The settings cannot be used, which is logged or not. -/
  | unusable (fault : SettingsFault) (logged : Bool)
  /-- The arguments are at fault. -/
  | misused
  deriving DecidableEq, Repr

namespace Answer

/-- The status with which the command ends. -/
def status : Answer → Nat
  | printed _ | helped => 0
  | refused _ | unusable _ _ => 1
  | misused => 2

/-- How the command is called. -/
def usage : String := "Usage: " ++ program ++ " [OPTIONS] <QUERY>\n"

/-- What the answer puts out as a result. -/
def outputText : Answer → String
  | printed text => text
  | helped => usage
  | refused _ | unusable _ _ | misused => ""

/-- What the answer says of a failure. -/
def errorText : Answer → String
  | printed _ | helped => ""
  | refused text => text
  | unusable fault logged => if logged then fault.message ++ "\n" else ""
  | misused => usage

end Answer

/-- The settings of a file whose text is given, if it could be read. -/
def settingsOf (text? : Option String) : Except SettingsFault Settings :=
  match text? with
  | none => .error .unreadable
  | some text =>
      match Settings.read? text with
      | some settings => .ok settings
      | none => .error .malformed

/-- The variable of the environment that may hold a filter for the log. -/
def filterVariable : String := "RUST_LOG"

/-- The filter of the environment, given what the variable holds if it is set to a text: one that is
not valid is passed over. -/
def environmentFilter (environment : Option String) : Option String :=
  environment.filter LogFilter.isValid

namespace Arguments

/-- The level at which the command logs unless it is told. -/
def usualLogLevel : String := "warn"

/-- The filter for the log that the arguments ask for. -/
def logFilter (arguments : Arguments) : String :=
  arguments.logLevel.getD usualLogLevel

/-- What is logged: a valid filter of the environment takes the place of the arguments' own. -/
def directives (environment : Option String) (arguments : Arguments) : List Directive :=
  match environmentFilter environment with
  | some filter => LogFilter.directives filter
  | none => LogFilter.directivesOrUsual arguments.logFilter

/-- What is said of the filter for the log: nothing if it is that of the environment. -/
def notices (environment : Option String) (arguments : Arguments) : String :=
  match environmentFilter environment with
  | some _ => ""
  | none => LogFilter.notices arguments.logFilter

/-- The settings that the arguments ask for. -/
def settings (file : String → Option String) (arguments : Arguments) :
    Except SettingsFault Settings :=
  let base :=
    match arguments.settingsPath with
    | some path => settingsOf (file path)
    | none => .ok Settings.default
  base.map (·.withFields arguments.fields)

/-- The layout that the arguments ask for. -/
def layout (arguments : Arguments) : Json.Layout :=
  if arguments.pretty then .pretty else .compact

/-- The answer to a query with the arguments around it. -/
def answer (environment : Option String) (file : String → Option String) (arguments : Arguments)
    (query : String) : Answer :=
  match arguments.settings file with
  | .error fault =>
      .unusable fault (LogFilter.logsErrors program (arguments.directives environment))
  | .ok settings =>
      match Query.parse settings query with
      | .ok clauses => .printed (Clause.writeAll arguments.layout clauses ++ "\n")
      | .error diagnostic => .refused (diagnostic.render ++ "\n")

end Arguments

/-- The answer to a command line, `file` giving the texts of the files that can be read. -/
def answer (environment : Option String) (file : String → Option String) (texts : List String) :
    Answer :=
  match Arguments.read texts with
  | .error .misuse => .misused
  | .error .version => .printed versionLine
  | .error .help => .helped
  | .ok arguments =>
      match arguments.query with
      | none => .misused
      | some query => arguments.answer environment file query

/-- What is said of the log filter before the query is looked at. -/
def notices (environment : Option String) (texts : List String) : String :=
  match Arguments.read texts with
  | .error _ => ""
  | .ok arguments =>
      match arguments.query with
      | none => ""
      | some _ => arguments.notices environment

/-- Everything that the command says of a command line besides its result. -/
def errorText (environment : Option String) (file : String → Option String)
    (texts : List String) : String :=
  notices environment texts ++ (answer environment file texts).errorText

end CommandLine
end PipeQuery

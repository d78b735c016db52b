import PipeQuery.Number.Decimal
import PipeQuery.Pattern
import PipeQuery.Text.Alphanumeric
import PipeQuery.Text.Items

/-!
# What is logged

A filter is a list of directives with commas between them.  A directive is a level for everything,
or it names the programs it is about, with or without a level; without one it logs everything.
Between the target and the level it may narrow the reports in brackets: to those within a span, or
to those that have a field, which stands in braces.  With an equals sign and a number or a pattern
behind its name, a field narrows the reports to those within a span that has it.

Blanks around a directive are passed over when its marks are looked for.  Its parts are then cut out
of the whole text at the places that they have without the blanks in front, so that these blanks
shift what is cut out.  Places count bytes.

Of the directives about a report the one with the longest target counts, before others with that
target one that asks for a field, and of several alike the last.

A filter of the environment is used only if all its parts are directives, and logs nothing without
them.  From a filter of the arguments what is no directive is left out with a notice, and errors are
logged if no directive is left.
-/

namespace PipeQuery
namespace CommandLine

/-- The reports that a directive is about. -/
inductive Scope where
  /-- All reports. -/
  | all
  /-- The reports that have a field of that name. -/
  | withField (name : List Char)
  /-- The reports within a span. -/
  | withinSpan
  deriving DecidableEq, Repr

namespace Scope

/-- The field that holds the text of a report. -/
def textField : List Char := "message".toList

/-- An error of the command is reported by its text alone and within no span. -/
def coversErrors : Scope → Bool
  | all => true
  | withField name => name == textField
  | withinSpan => false

/-- Number of fields that a scope asks for. -/
def fieldCount : Scope → Nat
  | withField _ => 1
  | all | withinSpan => 0

end Scope

/-- The part of a log that a directive is about, and whether errors in it are logged. -/
structure Directive where
  /-- The first characters of the names of the programs; none for all programs. -/
  target : List Char
  /-- The reports of these programs. -/
  scope : Scope
  /-- Errors are logged. -/
  logsErrors : Bool
  deriving DecidableEq, Repr

/-- Why a text is no directive. -/
inductive DirectiveFault where
  /-- The text does not have the form of a directive. -/
  | malformed
  /-- There is no such level. -/
  | noLevel
  /-- The value of a field is neither a number nor a usable pattern. -/
  | noPattern (fault : Pattern.Fault)
  deriving DecidableEq, Repr

namespace DirectiveFault

/-- What a notice says of the text. -/
def message : DirectiveFault → String
  | malformed => "invalid filter directive"
  | noLevel =>
      "error parsing level filter: expected one of \"off\", \"error\", \"warn\", \"info\", " ++
        "\"debug\", \"trace\", or a number 0-5"
  | noPattern .malformed => "invalid field filter: error building NFA"
  | noPattern .asksWords =>
      "invalid field filter: unsupported regex feature for DFAs: cannot build DFAs for regexes " ++
        "with Unicode word boundaries; switch to ASCII word boundaries, or heuristically " ++
        "enable Unicode word boundaries or use a different regex engine"

end DirectiveFault

namespace Directive

/-- Whether a level given by its number logs errors; a plus sign may stand in front. -/
def numberedLevel? (word : List Char) : Option Bool :=
  let digits :=
    match word with
    | '+' :: digits => digits
    | digits => digits
  if digits.isEmpty || !digits.all Char.isDigit then none
  else
    match Nat.ofDigitChars 10 digits 0 with
    | 0 => some false
    | level => if level ≤ 5 then some true else none

/-- Whether a level logs errors; none where the word is no level. -/
def level? (word : List Char) : Option Bool :=
  match numberedLevel? word with
  | some logsErrors => some logsErrors
  | none =>
      match String.ofList (word.map Char.toLower) with
      | "off" => some false
      | "error" | "warn" | "info" | "debug" | "trace" => some true
      | _ => none

/-- The characters with which a target starts. -/
def startsTarget (c : Char) : Bool :=
  Text.isAlphanumeric c || c == '_' || c == ':' || c == '-'

/-- A target goes on up to an equals sign or an opening bracket. -/
def continuesTarget (c : Char) : Bool :=
  c != '=' && c != '['

/-- The name of a span goes on up to a closing bracket or an opening brace. -/
def continuesSpan (c : Char) : Bool :=
  c != ']' && c != '\x7b'

/-- A field goes on up to a closing brace. -/
def continuesField (c : Char) : Bool :=
  c != '\x7d'

/-- Number of bytes of a text. -/
def width : List Char → Nat
  | [] => 0
  | c :: rest => c.utf8Size + width rest

/-- The characters between two places of a text whose first character stands at `place`. -/
def cutFrom (place start stop : Nat) : List Char → List Char
  | [] => []
  | c :: rest =>
      let more := cutFrom (place + c.utf8Size) start stop rest
      if start ≤ place ∧ place < stop then c :: more else more

/-- The characters between two places of a text. -/
def cut (text : List Char) (start stop : Nat) : List Char :=
  cutFrom 0 start stop text

/-- The level from a place of the text on: everything if nothing stands there. -/
def readLevel (text : List Char) (start : Nat) : Except DirectiveFault Bool :=
  let level := cut text start (width text)
  if level.isEmpty then .ok true
  else
    match level? level with
    | some logsErrors => .ok logsErrors
    | none => .error .noLevel

/-- The words for numbers without digits. -/
def numberWords : List String := ["inf", "infinity", "nan"]

/-- A text spells a number, which is a value and not a pattern. -/
def isNumber (text : List Char) : Bool :=
  (Decimal.read? text).isSome ||
    numberWords.contains (String.ofList ((Decimal.sign text).2.map Char.toLower))

/-- The scope of a field.  A value goes on up to the next equals sign. -/
def readField (field : List Char) : Except DirectiveFault Scope :=
  match field.dropWhile (· != '=') with
  | [] => .ok (.withField field)
  | _ :: rest =>
      let value := rest.takeWhile (· != '=')
      if isNumber value then .ok .withinSpan
      else
        match Pattern.fault? value with
        | none => .ok .withinSpan
        | some fault => .error (.noPattern fault)

/-- The scope in brackets, the place behind them, and what follows.  The first character of `rest`,
behind the opening bracket, has the place `place`.  A field may follow the name of a span. -/
def readScope (text : List Char) (place : Nat) (rest : List Char) :
    Except DirectiveFault (Scope × Nat × List Char) :=
  let span := rest.takeWhile continuesSpan
  let place := place + width span + 1
  match rest.dropWhile continuesSpan with
  | ']' :: rest => .ok (.withinSpan, place, rest)
  | '\x7b' :: rest =>
      let size := width (rest.takeWhile continuesField)
      match rest.dropWhile continuesField with
      | '\x7d' :: rest =>
          if size = 0 then .error .malformed
          else
            match readField (cut text place (place + size)), rest with
            | .error fault, _ => .error fault
            | .ok scope, ']' :: rest =>
                .ok (if span.isEmpty then scope else .withinSpan, place + size + 2, rest)
            | .ok _, _ => .error .malformed
      | _ => .error .malformed
  | _ => .error .malformed

/-- A directive with a scope, from the place behind its opening bracket on. -/
def readNarrowed (text target : List Char) (place : Nat) (rest : List Char) :
    Except DirectiveFault Directive :=
  match readScope text place rest with
  | .error fault => .error fault
  | .ok (scope, _, []) => .ok { target, scope, logsErrors := true }
  | .ok (scope, place, '=' :: _) =>
      (readLevel text (place + 1)).map fun logsErrors => { target, scope, logsErrors }
  | .ok _ => .error .malformed

/-- A directive without marks: a level for everything, or a target. -/
def ofPlain (text : List Char) : Directive :=
  match level? text with
  | some logsErrors => { target := [], scope := .all, logsErrors }
  | none => { target := text, scope := .all, logsErrors := true }

/-- A text without the white space around it. -/
def trim (text : List Char) : List Char :=
  (((text.dropWhile Text.CharacterSet.whiteSpace.contains).reverse).dropWhile
    Text.CharacterSet.whiteSpace.contains).reverse

/-- The directive that a text spells. -/
def read (text : List Char) : Except DirectiveFault Directive :=
  match trim text with
  | [] => .error .malformed
  | '[' :: rest => readNarrowed text [] 1 rest
  | c :: rest =>
      if startsTarget c then
        let place := width (c :: rest.takeWhile continuesTarget)
        let target := cut text 0 place
        match rest.dropWhile continuesTarget with
        | [] => .ok (ofPlain text)
        | '=' :: _ =>
            (readLevel text (place + 1)).map fun logsErrors =>
              { target, scope := .all, logsErrors }
        | _ :: rest => readNarrowed text target (place + 1) rest
      else .error .malformed

/-- The directive of a filter of the arguments that gives none: errors are logged. -/
def usual : Directive := { target := [], scope := .all, logsErrors := true }

/-- The directive is about the errors of a program. -/
def concerns (program : List Char) (directive : Directive) : Bool :=
  directive.target.isPrefixOf program && directive.scope.coversErrors

/-- The directive counts before another one that is about the same report. -/
def outranks (directive other : Directive) : Bool :=
  other.target.length < directive.target.length ||
    (other.target.length == directive.target.length &&
      other.scope.fieldCount ≤ directive.scope.fieldCount)

end Directive

/-- The directive that counts for the errors of a program. -/
def directiveFor? (program : List Char) (directives : List Directive) : Option Directive :=
  directives.foldl
    (fun best? directive =>
      if directive.concerns program && best?.all directive.outranks then some directive
      else best?)
    none

namespace LogFilter

/-- The texts between the commas of a filter, the empty ones left out. -/
def parts (filter : String) : List (List Char) :=
  (Text.items filter.toList).filter fun part => !part.isEmpty

/-- All parts of a filter are directives. -/
def isValid (filter : String) : Bool :=
  (parts filter).all fun part => (Directive.read part).isOk

/-- The directives of a filter. -/
def directives (filter : String) : List Directive :=
  (parts filter).filterMap fun part => (Directive.read part).toOption

/-- The directives of a filter, or the usual one if it has none. -/
def directivesOrUsual (filter : String) : List Directive :=
  match directives filter with
  | [] => [.usual]
  | directives => directives

/-- What is said of a part of a filter: nothing if it is a directive. -/
def noticeOf (part : List Char) : String :=
  match Directive.read part with
  | .ok _ => ""
  | .error fault => "ignoring `" ++ String.ofList part ++ "`: " ++ fault.message ++ "\n"

/-- A line for each part of a filter that is no directive. -/
def notices (filter : String) : String :=
  String.join ((parts filter).map noticeOf)

/-- Directives log the errors of a program. -/
def logsErrors (program : String) (directives : List Directive) : Bool :=
  (directiveFor? program.toList directives).any Directive.logsErrors

end LogFilter
end CommandLine
end PipeQuery

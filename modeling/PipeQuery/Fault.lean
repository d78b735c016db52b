import PipeQuery.Text.Printable

/-!
# Why a query is refused

A query is refused either because its text does not fall into tokens or because its tokens do not
form clauses.  The causes of the first sort are a type of their own, since tokens are also made
without clauses.  Every cause has a code, which names it, and a message, which says it in words.
-/

namespace PipeQuery

/-- Why a text does not fall into tokens. -/
inductive LexicalFault where
  /-- A control character stands outside every quoted text. -/
  | unlexable (character : Char) (offset : Nat)
  /-- A quoted text has no closing quote. -/
  | unclosedString
  deriving DecidableEq, Repr

namespace LexicalFault

/-- The offset that a fault names; an unclosed text names none. -/
def column? : LexicalFault → Option Nat
  | unlexable _ offset => some offset
  | unclosedString => none

/-- The offset at which a fault is reported in a query with `length` characters. -/
def column (length : Nat) (fault : LexicalFault) : Nat :=
  fault.column?.getD length

@[simp]
theorem column_unlexable (length offset : Nat) (character : Char) :
    (unlexable character offset).column length = offset := rfl

@[simp]
theorem column_unclosedString (length : Nat) : unclosedString.column length = length := rfl

end LexicalFault

/-- Why a query is refused. -/
inductive Cause where
  /-- The text does not fall into tokens. -/
  | lexical (fault : LexicalFault)
  /-- A clause starts with a word that is no field. -/
  | invalidField (field : String)
  /-- A field is followed by something that compares nothing. -/
  | invalidOperator (operator : Option String)
  /-- The software word is followed by something that asks for no software. -/
  | unexpectedOperator (operator : Option String)
  /-- A bound is missing or not a word. -/
  | expectedNumber (field : String)
  /-- A bound is a word that is no finite number. -/
  | notANumber (field value : String)
  /-- The value to compare with is missing or not a text. -/
  | unexpectedValue (field : String)
  /-- An entry of a software list has no name. -/
  | expectedSoftwareName
  /-- Nothing says which software is meant. -/
  | expectedSoftwareQuery
  /-- A version operator has no version. -/
  | expectedVersion
  /-- A version is compared by something that is no relation. -/
  | invalidVersionOperator (operator : String)
  /-- An opening parenthesis is not closed. -/
  | expectedClosingParen
  /-- A clause starts with a token that starts no clause. -/
  | unexpectedToken (kind value : String)
  deriving DecidableEq, Repr

namespace Cause

/-- The name of a cause. -/
def code : Cause → String
  | lexical (.unlexable _ _) => "UnlexableCharacter"
  | lexical .unclosedString => "UnclosedString"
  | invalidField _ => "InvalidField"
  | invalidOperator _ => "InvalidOperator"
  | unexpectedOperator _ => "UnexpectedOperator"
  | expectedNumber _ => "ExpectedNumber"
  | notANumber _ _ => "NotANumber"
  | unexpectedValue _ => "UnexpectedValue"
  | expectedSoftwareName => "ExpectedSoftwareName"
  | expectedSoftwareQuery => "ExpectedSoftwareQuery"
  | expectedVersion => "ExpectedVersion"
  | invalidVersionOperator _ => "InvalidVersionOperator"
  | expectedClosingParen => "ExpectedClosingParen"
  | unexpectedToken _ _ => "UnexpectedToken"

/-- The text does not fall into tokens. -/
def isLexical : Cause → Bool
  | lexical _ => true
  | _ => false

/-- A text between single quotes. -/
def quoted (value : String) : String :=
  "'" ++ value ++ "'"

/-- A text between single quotes with a space in front, or nothing. -/
def quotedAfter : Option String → String
  | some value => " " ++ quoted value
  | none => ""

/-- What a cause says to the writer of the query. -/
def message : Cause → String
  | lexical (.unlexable character offset) =>
      "Unable to parse query character: " ++ Text.shown character ++ " at " ++ offset.repr
  | lexical .unclosedString => "Unclosed string"
  | invalidField field => "Invalid field " ++ quoted field
  | invalidOperator operator => "Invalid operator" ++ quotedAfter operator
  | unexpectedOperator operator => "Unexpected operator" ++ quotedAfter operator
  | expectedNumber field => "Expected a number for field " ++ quoted field
  | notANumber field value => "Not a number " ++ quoted value ++ " for field " ++ quoted field
  | unexpectedValue field => "Unexpected value for field " ++ quoted field
  | expectedSoftwareName => "Expected software name"
  | expectedSoftwareQuery => "Expected software query"
  | expectedVersion => "Expected version"
  | invalidVersionOperator operator => "Invalid version operator " ++ quoted operator
  | expectedClosingParen => "Expected closing parenthesis"
  | unexpectedToken kind value => "Unexpected token: " ++ kind ++ " " ++ value

end Cause
end PipeQuery

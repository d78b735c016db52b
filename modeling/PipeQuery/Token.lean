/-!
# Tokens

A token is a kind, a value and an offset.  The value of a quoted text is what it stands for, and
its offset is that of the first character after the opening quote; every other token has its own
characters as value and starts at its offset.
-/

namespace PipeQuery

/-- The kinds of tokens. -/
inductive TokenKind where
  | pipe
  | openParen
  | closeParen
  | comma
  | string
  | ident
  | operator
  deriving DecidableEq, Repr

namespace TokenKind

/-- The name under which a kind is shown. -/
def name : TokenKind → String
  | pipe => "pipe"
  | openParen => "openParen"
  | closeParen => "closeParen"
  | comma => "comma"
  | string => "string"
  | ident => "ident"
  | operator => "operator"

/-- Quoted texts and words carry a text that a query can use. -/
def isText : TokenKind → Bool
  | string | ident => true
  | _ => false

/-- Pipes, commas and closing parentheses end an entry of a list. -/
def isSeparator : TokenKind → Bool
  | pipe | comma | closeParen => true
  | _ => false

/-- Pipes and closing parentheses end a list. -/
def endsList : TokenKind → Bool
  | pipe | closeParen => true
  | _ => false

theorem isText_iff {kind : TokenKind} : kind.isText = true ↔ kind = string ∨ kind = ident := by
  cases kind <;> simp [isText]

theorem endsList_iff {kind : TokenKind} :
    kind.endsList = true ↔ kind = pipe ∨ kind = closeParen := by
  cases kind <;> simp [endsList]

end TokenKind

/-- One token of a query. -/
structure Token where
  /-- The class of the token. -/
  kind : TokenKind
  /-- What the token stands for. -/
  value : String
  /-- Offset of the first character of the value, in characters. -/
  pos : Nat
  deriving DecidableEq, Repr

namespace Token

/-- The token carries a text. -/
def isText (token : Token) : Bool :=
  token.kind.isText

/-- The token ends an entry of a list. -/
def isSeparator (token : Token) : Bool :=
  token.kind.isSeparator

/-- The kind and the value, with a space between them. -/
def shown (token : Token) : String :=
  token.kind.name ++ " " ++ token.value

end Token
end PipeQuery

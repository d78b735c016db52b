/-!
# Classes of characters in a query

Every character of a query outside a quoted text is a blank, a punctuation mark, a comparison
symbol, a control character or a word character.  The classes are decided by single characters, so
a token ends where the class of the next character says so.
-/

namespace PipeQuery
namespace Text

/-- Blanks separate tokens: the space, the tab, the line feed and the carriage return. -/
def isBlank (c : Char) : Bool :=
  c == ' ' || c == '\t' || c == '\n' || c == '\r'

/-- A text of blanks alone. -/
def Blank (text : List Char) : Prop :=
  ∀ c ∈ text, isBlank c = true

/-- Punctuation marks are tokens of their own wherever they stand. -/
def isPunctuation (c : Char) : Bool :=
  c == '|' || c == '(' || c == ')' || c == ','

/-- Comparison symbols make up the operator tokens. -/
def isComparison (c : Char) : Bool :=
  c == '=' || c == '>' || c == '<' || c == '~'

/-- Control characters are the code points below the space, the delete character and the
thirty-two code points above it. -/
def isControl (c : Char) : Bool :=
  c.toNat < 0x20 || (0x7f ≤ c.toNat && c.toNat ≤ 0x9f)

/-- Word characters are all others; a quote is one of them once a word has begun. -/
def isWord (c : Char) : Bool :=
  !isBlank c && !isPunctuation c && !isComparison c && !isControl c

/-- Three comparison symbols absorb an equals sign that follows them. -/
def absorbsEquals (c : Char) : Bool :=
  c == '>' || c == '<' || c == '='

theorem isBlank_iff {c : Char} :
    isBlank c = true ↔ c = ' ' ∨ c = '\t' ∨ c = '\n' ∨ c = '\r' := by
  simp [isBlank, or_assoc]

theorem blank_nil : Blank [] :=
  nofun

theorem isPunctuation_iff {c : Char} :
    isPunctuation c = true ↔ c = '|' ∨ c = '(' ∨ c = ')' ∨ c = ',' := by
  simp [isPunctuation, or_assoc]

theorem isComparison_iff {c : Char} :
    isComparison c = true ↔ c = '=' ∨ c = '>' ∨ c = '<' ∨ c = '~' := by
  simp [isComparison, or_assoc]

theorem isWord_iff {c : Char} :
    isWord c = true ↔
      isBlank c = false ∧ isPunctuation c = false ∧ isComparison c = false ∧
        isControl c = false := by
  simp [isWord, and_assoc]

/-- What stands behind the longest run of accepted characters starts with none of them. -/
theorem stops_dropWhile (accepts : Char → Bool) (text : List Char) :
    ∀ c ∈ (text.dropWhile accepts).head?, accepts c = false := by
  intro c first
  have refused := List.head?_dropWhile_not accepts text
  rw [show (text.dropWhile accepts).head? = some c from first] at refused
  simpa using refused

/-- The longest run of accepted characters ends in front of one that is not accepted. -/
theorem takeWhile_append_of_stop {accepts : Char → Bool} {run rest : List Char}
    (inside : ∀ c ∈ run, accepts c = true) (stops : ∀ c ∈ rest.head?, accepts c = false) :
    (run ++ rest).takeWhile accepts = run := by
  rw [List.takeWhile_append_of_pos inside]
  cases rest with
  | nil => simp
  | cons c rest => simp [stops c rfl]

theorem dropWhile_append_of_stop {accepts : Char → Bool} {run rest : List Char}
    (inside : ∀ c ∈ run, accepts c = true) (stops : ∀ c ∈ rest.head?, accepts c = false) :
    (run ++ rest).dropWhile accepts = rest := by
  rw [List.dropWhile_append_of_pos inside]
  cases rest with
  | nil => rfl
  | cons c rest => simp [stops c rfl]

end Text
end PipeQuery

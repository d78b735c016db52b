import PipeQuery.Proofs.Token.Sources

/-!
# Texts that spell tokens

A text is put together from blanks, marks, operators, words and quoted texts; what such a piece adds
to the tokens of the text behind it does not depend on that text, as long as the piece ends there.
Places are left out: every token stands at offset zero here.
-/

namespace PipeQuery

/-- A text in quotes. -/
def Text.Quoted.literal (value : String) : String :=
  "\"" ++ String.ofList (write value.toList) ++ "\""

theorem Text.Quoted.toList_literal (value : String) :
    (literal value).toList = quote :: (write value.toList ++ [quote]) := by
  simp [literal, quote]

/-- A token without a place. -/
def Token.bare (kind : TokenKind) (value : String) : Token :=
  { kind, value, pos := 0 }

@[simp]
theorem Token.bare_kind (kind : TokenKind) (value : String) : (bare kind value).kind = kind := rfl

@[simp]
theorem Token.bare_value (kind : TokenKind) (value : String) :
    (bare kind value).value = value := rfl

/-- A text falls into these tokens, wherever they stand. -/
def Spells (text : List Char) (tokens : List Token) : Prop :=
  ∃ placed, TokenStream.readFrom false 0 text = { tokens := placed, fault := none } ∧
    placed.map (Token.relocate fun _ => 0) = tokens

namespace Spells

variable {rest : List Char} {tokens : List Token}

theorem nil : Spells [] [] :=
  ⟨[], TokenStream.readFrom_of_end rfl, rfl⟩

/-- A text further to the right spells the same tokens. -/
private theorem exists_placed (offset : Nat) (spelled : Spells rest tokens) :
    ∃ placed, TokenStream.readFrom false offset rest = { tokens := placed, fault := none } ∧
      placed.map (Token.relocate fun _ => 0) = tokens := by
  obtain ⟨placed, read, rfl⟩ := spelled
  have moved := TokenStream.readFrom_add false 0 offset rest
  rw [Nat.zero_add, read] at moved
  refine ⟨_, moved, ?_⟩
  rw [List.map_map]
  exact List.map_congr_left fun _ _ => rfl

/-- A token and the text behind its source. -/
theorem cons {token : Token} {source : List Char} (hasSource : token.HasSource 0 rest source)
    (spelled : Spells rest tokens) :
    Spells (source ++ rest) (token.relocate (fun _ => 0) :: tokens) := by
  obtain ⟨placed, read, same⟩ := exists_placed (0 + 0 + source.length) spelled
  have scanned := Scan.scan_of_hasSource Text.blank_nil hasSource false
  refine ⟨token :: placed, ?_, congrArg (_ :: ·) same⟩
  rw [List.nil_append] at scanned
  rw [TokenStream.readFrom_of_token (by rw [scanned]), scanned, List.length_nil, read]
  rfl

theorem blank {c : Char} (isBlank : Text.isBlank c = true) (spelled : Spells rest tokens) :
    Spells (c :: rest) tokens := by
  obtain ⟨placed, read, same⟩ := exists_placed 1 spelled
  exact ⟨placed, (TokenStream.readFrom_blank isBlank false 0 rest).trans read, same⟩

theorem space (spelled : Spells rest tokens) : Spells (' ' :: rest) tokens :=
  spelled.blank rfl

/-- A mark, which is a token wherever it stands. -/
theorem mark {c : Char} {kind : TokenKind} (isMark : (c, kind) ∈ Token.marks)
    (spelled : Spells rest tokens) :
    Spells (c :: rest) (.bare kind (String.ofList [c]) :: tokens) :=
  spelled.cons (.mark isMark)

/-- A quoted text ends at its closing quote. -/
theorem quoted (value : String) (spelled : Spells rest tokens) :
    Spells ((Text.Quoted.literal value).toList ++ rest) (.bare .string value :: tokens) := by
  have whole := spelled.cons (.quoted (Text.Quoted.means_write value.toList))
  rw [String.ofList_toList] at whole
  rw [Text.Quoted.toList_literal]
  exact whole

/-- A word ends in front of every character that is none of a word. -/
theorem word {word : String} (isWord : Text.IsWord word)
    (apart : ∀ c ∈ rest.head?, Text.isWord c = false) (spelled : Spells rest tokens) :
    Spells (word.toList ++ rest) (.bare .ident word :: tokens) :=
  spelled.cons (.word isWord apart)

/-- An operator ends in front of everything but an equals sign. -/
theorem operator {operator : String} (isOperator : operator ∈ operators)
    (apart : rest.head? ≠ some '=') (spelled : Spells rest tokens) :
    Spells (operator.toList ++ rest) (.bare .operator operator :: tokens) :=
  spelled.cons (.operator isOperator fun _ => apart)

/-- A text without faults is read alike by a tolerant reading. -/
theorem read_tolerant {text : List Char} (tolerant : Bool) (spelled : Spells text tokens) :
    ∃ placed, TokenStream.read tolerant text = { tokens := placed, fault := none } ∧
      placed.map (Token.relocate fun _ => 0) = tokens := by
  obtain ⟨placed, read, same⟩ := spelled
  have laidOut := TokenStream.readFrom_eq_iff.mp read
  exact ⟨placed, TokenStream.readFrom_of_laidOut laidOut tolerant, same⟩

end Spells

/-- A text that keeps every token in front of it from going on. -/
def Apart (text : List Char) : Prop :=
  ∀ c ∈ text.head?, Text.isBreak c = true

theorem apart_nil : Apart [] := by
  simp [Apart]

theorem apart_cons {c : Char} (breaks : Text.isBreak c = true) (text : List Char) :
    Apart (c :: text) := by
  simpa [Apart] using breaks

/-- A text spells these tokens in front of every other one that keeps apart. -/
def Spelling (text : String) (tokens : List Token) : Prop :=
  ∀ rest more, Apart rest → Spells rest more → Spells (text.toList ++ rest) (tokens ++ more)

namespace Spelling

theorem quoted (value : String) :
    Spelling (Text.Quoted.literal value) [.bare .string value] :=
  fun _ _ _ spelled => spelled.quoted value

theorem word {word : String} (isWord : Text.IsWord word) :
    Spelling word [.bare .ident word] := by
  intro rest more apart spelled
  exact spelled.word isWord fun c first => Text.not_isWord_of_isBreak (apart c first)

theorem operator {operator : String} (isOperator : operator ∈ Spells.operators) :
    Spelling operator [.bare .operator operator] := by
  intro rest more apart spelled
  exact spelled.operator isOperator fun first => Text.ne_equals_of_isBreak (apart '=' first) rfl

/-- Texts with a space between them. -/
theorem space {first second : String} {before after : List Token} (left : Spelling first before)
    (right : Spelling second after) : Spelling (first ++ " " ++ second) (before ++ after) := by
  intro rest more apart spelled
  have behind := (right rest more apart spelled).space
  have whole := left _ _ (apart_cons rfl _) behind
  simpa [List.append_assoc] using whole

theorem parenthesized {text : String} {tokens : List Token} (spelling : Spelling text tokens) :
    Spelling ("(" ++ text ++ ")")
      (.bare .openParen "(" :: (tokens ++ [.bare .closeParen ")"])) := by
  intro rest more apart spelled
  have closed : Spells (')' :: rest) (.bare .closeParen ")" :: more) := spelled.mark (by decide)
  have inner := spelling _ _ (apart_cons rfl rest) closed
  have whole : Spells ('(' :: (text.toList ++ ')' :: rest))
      (.bare .openParen "(" :: (tokens ++ .bare .closeParen ")" :: more)) :=
    inner.mark (by decide)
  simpa [List.append_assoc] using whole

theorem congr {text text' : String} {tokens : List Token} (spelling : Spelling text tokens)
    (same : text.toList = text'.toList) : Spelling text' tokens := by
  obtain rfl := String.toList_inj.mp same
  exact spelling

end Spelling
end PipeQuery

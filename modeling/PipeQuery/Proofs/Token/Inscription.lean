import PipeQuery.Proofs.Token.Spelling

/-!
# Tokens written with blanks between them

A token is written as its value, and a quoted text as any body in quotes that stands for its value.
With blanks between them tokens cannot run together, so reading undoes the writing: it takes the
tokens that were written, each from the place where it stands, and meets no fault
(`TokenReader.drain_inscribed`).
-/

namespace PipeQuery

/-- The values that the tokens of a kind can have. -/
def TokenKind.Admits (kind : TokenKind) (value : String) : Prop :=
  match kind with
  | .pipe | .openParen | .closeParen | .comma =>
      ∃ c, (c, kind) ∈ Token.marks ∧ value = String.ofList [c]
  | .operator => value ∈ Spells.operators
  | .ident => Text.IsWord value
  | .string => True

/-- A token as it is written. -/
structure WrittenToken where
  /-- The kind of the token. -/
  kind : TokenKind
  /-- What the token stands for. -/
  value : String
  /-- The characters that are written for it. -/
  source : List Char
  /-- The blanks behind them. -/
  gap : List Char

namespace WrittenToken

/-- The characters are the value, or a body in quotes that stands for it: in the body an escape sign
stands in front of every quote and every escape sign of the value, and may stand in front of any
other character. -/
def WritesValue (written : WrittenToken) : Prop :=
  match written.kind with
  | .string =>
      ∃ body, Text.Quoted.Means body written.value.toList ∧
        written.source = Text.Quoted.quote :: (body ++ [Text.Quoted.quote])
  | _ => written.source = written.value.toList

/-- The text that is written for some tokens. -/
def text (tokens : List WrittenToken) : List Char :=
  tokens.flatMap fun written => written.source ++ written.gap

/-- The token that is written from `offset` on. -/
def token (offset : Nat) (written : WrittenToken) : Token where
  kind := written.kind
  value := written.value
  pos := if written.kind = .string then offset + 1 else offset

/-- The tokens of a text that is written from `offset` on. -/
def tokensFrom (offset : Nat) : List WrittenToken → List Token
  | [] => []
  | written :: later =>
      written.token offset ::
        tokensFrom (offset + written.source.length + written.gap.length) later

/-- A kind and a value as they are written with as few escape signs as can be, and a space. -/
def plain (pair : TokenKind × String) : WrittenToken where
  kind := pair.1
  value := pair.2
  source :=
    match pair.1 with
    | .string => Text.Quoted.quote :: (Text.Quoted.write pair.2.toList ++ [Text.Quoted.quote])
    | _ => pair.2.toList
  gap := [' ']

theorem writesValue_plain (pair : TokenKind × String) : (plain pair).WritesValue := by
  obtain ⟨kind, value⟩ := pair
  cases kind with
  | string => exact ⟨_, Text.Quoted.means_write value.toList, rfl⟩
  | pipe | openParen | closeParen | comma | ident | operator => exact rfl

/-- What is written for a token is its source in front of a text that keeps apart. -/
theorem hasSource_token {written : WrittenToken} {rest : List Char} (offset : Nat)
    (admitted : written.kind.Admits written.value) (writes : written.WritesValue)
    (apart : Apart rest) : (written.token offset).HasSource offset rest written.source := by
  obtain ⟨kind, value, source, gap⟩ := written
  cases kind with
  | pipe | openParen | closeParen | comma =>
      obtain ⟨c, isMark, rfl⟩ := admitted
      obtain rfl : source = (String.ofList [c]).toList := writes
      rw [String.toList_ofList]
      exact .mark isMark
  | operator =>
      obtain rfl : source = value.toList := writes
      exact .operator admitted fun _ first => Text.ne_equals_of_isBreak (apart '=' first) rfl
  | ident =>
      obtain rfl : source = value.toList := writes
      exact .word admitted fun c first => Text.not_isWord_of_isBreak (apart c first)
  | string =>
      obtain ⟨body, means, rfl⟩ := writes
      have hasSource : Token.HasSource offset rest _ _ := .quoted means
      rw [String.ofList_toList] at hasSource
      exact hasSource

/-- The kinds and values are written with blanks behind each, which may be missing behind the last
one only. -/
structure Inscribes (pairs : List (TokenKind × String)) (tokens : List WrittenToken) : Prop where
  /-- These kinds and values are written. -/
  pairs : tokens.map (fun written => (written.kind, written.value)) = pairs
  /-- What is written for a token stands for it. -/
  values : ∀ written ∈ tokens, written.WritesValue
  /-- Behind a token there are only blanks. -/
  blank : ∀ written ∈ tokens, Text.Blank written.gap
  /-- And there are some if another token follows. -/
  apart : ∀ written ∈ tokens.dropLast, written.gap ≠ []

theorem inscribes_plain (pairs : List (TokenKind × String)) :
    Inscribes pairs (pairs.map plain) where
  pairs := by
    rw [List.map_map]
    exact List.map_id pairs
  values := by
    rintro _ member
    obtain ⟨pair, -, rfl⟩ := List.mem_map.mp member
    exact writesValue_plain pair
  blank := by
    rintro _ member c isGap
    obtain ⟨pair, -, rfl⟩ := List.mem_map.mp member
    obtain rfl := List.mem_singleton.mp isGap
    rfl
  apart := by
    rintro _ member
    obtain ⟨pair, -, rfl⟩ := List.mem_map.mp (List.dropLast_subset _ member)
    exact List.cons_ne_nil ' ' []

namespace Inscribes

variable {pair : TokenKind × String} {pairs : List (TokenKind × String)} {first : WrittenToken}
  {later : List WrittenToken}

theorem tail (inscribes : Inscribes (pair :: pairs) (first :: later)) : Inscribes pairs later where
  pairs := (List.cons.inj inscribes.pairs).2
  values := fun written member => inscribes.values written (.tail first member)
  blank := fun written member => inscribes.blank written (.tail first member)
  apart := by
    intro written member
    cases later with
    | nil => cases member
    | cons second later => exact inscribes.apart written (.tail first member)

/-- Behind a token there is a blank or nothing. -/
theorem apart_behind (inscribes : Inscribes pairs (first :: later)) :
    Apart (first.gap ++ text later) := by
  have blank := inscribes.blank first (.head later)
  cases gap : first.gap with
  | nil =>
      cases later with
      | nil => exact apart_nil
      | cons second later => exact absurd gap (inscribes.apart first (.head _))
  | cons c others =>
      have isBlank : Text.isBlank c = true := blank c (by rw [gap]; exact .head others)
      exact apart_cons (Text.isBreak_iff.mpr (.inl isBlank)) _

/-- A text with blanks in front is laid out in the tokens that are written. -/
theorem laidOut {tokens : List WrittenToken} (inscribes : Inscribes pairs tokens)
    (admitted : ∀ pair ∈ pairs, pair.1.Admits pair.2) {blanks : List Char}
    (blank : Text.Blank blanks) (offset : Nat) :
    LaidOut offset (blanks ++ text tokens) (tokensFrom (offset + blanks.length) tokens) := by
  induction tokens generalizing pairs blanks offset with
  | nil =>
      rw [text, List.flatMap_nil, List.append_nil]
      exact .blanks blank
  | cons first later induction =>
      obtain rfl := inscribes.pairs
      obtain ⟨isFirst, others⟩ := List.forall_mem_cons.mp admitted
      have hasSource := hasSource_token (offset + blanks.length) isFirst
        (inscribes.values first (.head later)) inscribes.apart_behind
      have behind := induction inscribes.tail others (inscribes.blank first (.head later))
        (offset + blanks.length + first.source.length)
      have split : text (first :: later) = first.source ++ (first.gap ++ text later) := by
        rw [text, List.flatMap_cons, List.append_assoc]
        rfl
      rw [split]
      exact .token blank hasSource behind

end Inscribes
end WrittenToken

namespace TokenReader

/-- Kinds and values that tokens can have are written with blanks between them, and in whatever way
that is done, iterating over the text gives just these tokens, in their places, and no fault. -/
theorem drain_inscribed {pairs : List (TokenKind × String)}
    (admitted : ∀ pair ∈ pairs, pair.1.Admits pair.2) :
    (∃ written, WrittenToken.Inscribes pairs written) ∧
      ∀ written, WrittenToken.Inscribes pairs written → ∀ blanks, Text.Blank blanks →
        ∀ tolerant, ∃ after,
          ((ofText (String.ofList (blanks ++ WrittenToken.text written))).withTolerance
            tolerant).drain = (WrittenToken.tokensFrom blanks.length written, none, after) := by
  refine ⟨⟨_, WrittenToken.inscribes_plain pairs⟩, ?_⟩
  intro written inscribes blanks blank tolerant
  have laidOut := inscribes.laidOut admitted blank 0
  rw [Nat.zero_add] at laidOut
  have read := TokenStream.readFrom_of_laidOut laidOut tolerant
  obtain ⟨tokens, fault⟩ := drain_withTolerance
    (String.ofList (blanks ++ WrittenToken.text written)) tolerant
  rw [TokenStream.read, String.toList_ofList, read] at tokens fault
  exact ⟨_, Prod.ext tokens (Prod.ext fault rfl)⟩

/-- A word with a quote in it, an escape sign in front of a character that needs none, and another
one at the end of a text in quotes. -/
theorem drain_inscribed_escapes :
    (∀ pair ∈ [(TokenKind.ident, "a\"b"), (.string, "x\\")], pair.1.Admits pair.2) ∧
      WrittenToken.Inscribes [(.ident, "a\"b"), (.string, "x\\")]
        [{ kind := .ident, value := "a\"b", source := "a\"b".toList, gap := ['\t'] },
          { kind := .string, value := "x\\", source := "\"\\x\\\\\"".toList, gap := [] }] ∧
      ∃ after, ((ofText (String.ofList ([' '] ++ WrittenToken.text
          [{ kind := .ident, value := "a\"b", source := "a\"b".toList, gap := ['\t'] },
            { kind := .string, value := "x\\", source := "\"\\x\\\\\"".toList
              gap := [] }]))).withTolerance false).drain =
        ([{ kind := .ident, value := "a\"b", pos := 1 },
          { kind := .string, value := "x\\", pos := 6 }], none, after) := by
  have admitted : ∀ pair ∈ [(TokenKind.ident, "a\"b"), (.string, "x\\")],
      pair.1.Admits pair.2 := by
    have isWord : Text.IsWord "a\"b" := by decide +kernel
    simp [TokenKind.Admits, isWord]
  have body : Text.Quoted.Means "\\x\\\\".toList "x\\".toList :=
    .escaped 'x' (.escaped '\\' .nil)
  have inscribes : WrittenToken.Inscribes [(.ident, "a\"b"), (.string, "x\\")]
      [{ kind := .ident, value := "a\"b", source := "a\"b".toList, gap := ['\t'] },
        { kind := .string, value := "x\\", source := "\"\\x\\\\\"".toList, gap := [] }] := by
    constructor
    · rfl
    · refine List.forall_mem_cons.mpr ⟨rfl, List.forall_mem_singleton.mpr ⟨_, body, ?_⟩⟩
      decide +kernel
    · simp [Text.Blank, Text.isBlank]
    · simp
  refine ⟨admitted, inscribes, ?_⟩
  have blank : Text.Blank [' '] := by simp [Text.Blank, Text.isBlank]
  obtain ⟨after, read⟩ := (drain_inscribed admitted).2 _ inscribes _ blank false
  exact ⟨after, read.trans (congrArg (·, none, after) (by decide +kernel))⟩

end TokenReader
end PipeQuery

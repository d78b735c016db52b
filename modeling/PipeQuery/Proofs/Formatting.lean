import PipeQuery.Proofs.Reading.Blame
import PipeQuery.Proofs.Reading.Relocation

/-!
# Formatting changes no meaning

Queries whose tokens are of the same kinds and values, wherever they stand, and whose texts end
alike mean the same: they give the same clauses, or are refused for the same cause at the same place
(`Query.parse_alike`).  Both are the same numbered query, moved: its tokens have their numbers for
places, and a place of the one query belongs to a place of the other by its number.
-/

namespace PipeQuery

/-- Streams with tokens of the same kinds and values in the same order, which end in no fault or in
faults of the same sort. -/
structure TokenStream.Alike (left right : TokenStream) : Prop where
  /-- The tokens differ in their places alone. -/
  tokens : left.tokens.map (fun token => (token.kind, token.value)) =
    right.tokens.map fun token => (token.kind, token.value)
  /-- The faults have the same name. -/
  fault : left.fault.map (fun fault => (Cause.lexical fault).code) =
    right.fault.map fun fault => (Cause.lexical fault).code

namespace Query

/-- Two columns that belong together in queries of the given lengths and tokens. -/
inductive SamePlace (left right : TokenStream) (length length' column column' : Nat) : Prop where
  /-- They are the places of tokens with the same number. -/
  | token (number : Nat) (token token' : Token) (found : left.tokens[number]? = some token)
      (found' : right.tokens[number]? = some token') (place : column = token.pos)
      (place' : column' = token'.pos)
  /-- They are the ends of the queries. -/
  | atEnd (place : column = length) (place' : column' = length')
  /-- They are the places of the characters that are in no token. -/
  | unlexable (character character' : Char)
      (stands : left.fault = some (.unlexable character column))
      (stands' : right.fault = some (.unlexable character' column'))

/-! ## Numbered queries -/

/-- The same tokens with their numbers for places. -/
def numbered (tokens : List Token) : List Token :=
  tokens.mapIdx fun number token => { token with pos := number }

/-- The fault in the text of a numbered query, which stands behind the number for its end. -/
def numberedFault (count : Nat) : LexicalFault → LexicalFault
  | .unlexable _ _ => .unlexable ' ' (count + 1)
  | .unclosedString => .unclosedString

/-- What stands behind the tokens of a numbered query. -/
def numberedEnding (stream : TokenStream) : Ending :=
  { fault := stream.fault.map (numberedFault stream.tokens.length)
    length := stream.tokens.length }

/-- Where a number goes: to the token that has it, to the end, or to the fault behind. -/
def placeOf (stream : TokenStream) (length number : Nat) : Nat :=
  match stream.tokens[number]? with
  | some token => token.pos
  | none =>
      if number = stream.tokens.length then length
      else (stream.fault.bind LexicalFault.column?).getD length

/-- Other places, and a certain character for the one that is in no token. -/
def Move.recast (place : Nat → Nat) (character : Char) : Move where
  place := place
  fault
    | .unlexable _ offset => .unlexable character (place offset)
    | .unclosedString => .unclosedString
  column_fault _ original := by cases original <;> rfl

/-- The character of a fault. -/
def characterOf : Option LexicalFault → Char
  | some (.unlexable character _) => character
  | _ => ' '

/-- The move that makes a numbered query the one with this stream. -/
def moveOf (stream : TokenStream) (length : Nat) : Move :=
  .recast (placeOf stream length) (characterOf stream.fault)

theorem place_moveOf (stream : TokenStream) (length : Nat) :
    (moveOf stream length).place = placeOf stream length := rfl

variable {settings : Settings} {stream : TokenStream} {length : Nat}

theorem placeOf_number {number : Nat} {token : Token}
    (found : stream.tokens[number]? = some token) :
    placeOf stream length number = token.pos := by
  rw [placeOf, found]

theorem placeOf_end : placeOf stream length stream.tokens.length = length := by
  simp [placeOf]

theorem placeOf_fault {character : Char} {offset : Nat}
    (stands : stream.fault = some (.unlexable character offset)) :
    placeOf stream length (stream.tokens.length + 1) = offset := by
  simp [placeOf, stands, LexicalFault.column?]

/-- The tokens of a query are the numbered ones at their places. -/
theorem map_numbered (stream : TokenStream) (length : Nat) :
    (numbered stream.tokens).map (Token.relocate (placeOf stream length)) = stream.tokens := by
  apply List.ext_getElem
  · simp [numbered]
  · intro number inside inside'
    simp [numbered, Token.relocate, placeOf_number (List.getElem?_eq_getElem inside')]

theorem moved_numberedEnding (stream : TokenStream) (length : Nat) :
    (numberedEnding stream).moved (moveOf stream length) = { fault := stream.fault, length } := by
  have sameFault : (numberedEnding stream).fault.map (moveOf stream length).fault =
      stream.fault := by
    rcases stands : stream.fault with _ | ⟨character, offset⟩ | _
    · simp [numberedEnding, stands]
    · simp [numberedEnding, numberedFault, moveOf, Move.recast, characterOf, stands,
        placeOf_fault stands]
    · simp [numberedEnding, numberedFault, moveOf, Move.recast, stands]
  rw [Ending.moved, sameFault, place_moveOf]
  exact congrArg (Ending.mk stream.fault) placeOf_end

/-- A run is that over the numbered query, moved. -/
theorem readClauses_numbered (stream : TokenStream) (length : Nat) :
    readClauses settings { fault := stream.fault, length } stream.tokens =
      (readClauses settings (numberedEnding stream) (numbered stream.tokens)).moved
        (moveOf stream length) := by
  have moved := readClauses_moved (moveOf stream length) settings (numberedEnding stream)
    (numbered stream.tokens)
  rw [moved_numberedEnding] at moved
  rwa [place_moveOf, map_numbered] at moved

/-! ## Streams that are alike -/

section Alike

variable {left right : TokenStream}

theorem length_of_alike (alike : left.Alike right) : left.tokens.length = right.tokens.length := by
  simpa using congrArg List.length alike.tokens

private theorem numbered_eq (tokens : List Token) :
    numbered tokens = (tokens.map fun token => (token.kind, token.value)).mapIdx
      fun number (kind, value) => { kind, value, pos := number } := by
  apply List.ext_getElem <;> simp [numbered]

private theorem numberedFault_of_code {count : Nat} {fault fault' : LexicalFault}
    (same : (Cause.lexical fault).code = (Cause.lexical fault').code) :
    numberedFault count fault = numberedFault count fault' := by
  cases fault <;> cases fault' <;> simp [numberedFault, Cause.code] at same ⊢

/-- Streams that are alike have the same numbered query. -/
theorem numbered_of_alike (alike : left.Alike right) :
    numbered left.tokens = numbered right.tokens ∧ numberedEnding left = numberedEnding right := by
  constructor
  · rw [numbered_eq, numbered_eq, alike.tokens]
  · have sameFault := alike.fault
    rw [numberedEnding, numberedEnding, length_of_alike alike]
    cases leftFault : left.fault <;> cases rightFault : right.fault
    · rfl
    · simp [leftFault, rightFault] at sameFault
    · simp [leftFault, rightFault] at sameFault
    · next fault fault' =>
        rw [leftFault, rightFault] at sameFault
        simp [numberedFault_of_code (Option.some.inj sameFault)]

theorem exists_unlexable_of_alike (alike : left.Alike right) {character : Char} {offset : Nat}
    (stands : left.fault = some (.unlexable character offset)) :
    ∃ character' offset', right.fault = some (.unlexable character' offset') := by
  have sameFault := alike.fault
  rw [stands] at sameFault
  rcases rightFault : right.fault with _ | ⟨character', offset'⟩ | _
  · rw [rightFault] at sameFault
    cases sameFault
  · exact ⟨character', offset', rfl⟩
  · simp [rightFault, Cause.code] at sameFault

/-- A numbered query is refused at the number of a token, at that of its end or at that of the fault
behind it. -/
theorem samePlace_of_failure (alike : left.Alike right) {failure : Failure} (length length' : Nat)
    (failed : (readClauses settings (numberedEnding left) (numbered left.tokens)).outcome =
      .error failure) :
    SamePlace left right length length' (placeOf left length failure.column)
      (placeOf right length' failure.column) := by
  have sameLength := length_of_alike alike
  cases blames_of_readClauses failed with
  | lexical _ settled =>
      rcases leftFault : left.fault with _ | ⟨character, offset⟩ | _
      · simp [numberedEnding, Ending.settle, leftFault] at settled
      · obtain ⟨character', offset', rightFault⟩ := exists_unlexable_of_alike alike leftFault
        obtain rfl : _ = failure := by
          simpa [numberedEnding, Ending.settle, leftFault, numberedFault] using settled
        rw [placeOf_fault leftFault, sameLength, placeOf_fault rightFault]
        exact .unlexable character character' leftFault rightFault
      · obtain rfl : _ = failure := by
          simpa [numberedEnding, Ending.settle, leftFault, numberedFault] using settled
        refine .atEnd placeOf_end ?_
        rw [sameLength]
        exact placeOf_end
  | atEnd column =>
      rw [show failure.column = left.tokens.length from column]
      refine .atEnd placeOf_end ?_
      rw [sameLength]
      exact placeOf_end
  | atToken before token after split column =>
      have stands : (numbered left.tokens)[before.length]? = some token := by
        rw [split, List.getElem?_append_right (Nat.le_refl _), Nat.sub_self]
        rfl
      obtain ⟨token', found, rfl⟩ : ∃ token', left.tokens[before.length]? = some token' ∧
          { token' with pos := before.length } = token := by
        simpa [numbered, List.getElem?_mapIdx] using stands
      have inside : before.length < right.tokens.length := by
        rw [← sameLength]
        exact (List.getElem?_eq_some_iff.mp found).1
      have found' := List.getElem?_eq_getElem inside
      rw [show failure.column = before.length from column]
      exact .token before.length _ _ found found' (placeOf_number found) (placeOf_number found')

end Alike

/-! ## Refusals -/

theorem code_moved (stream : TokenStream) (length : Nat) (cause : Cause) :
    (cause.moved (moveOf stream length)).code = cause.code := by
  rcases cause with ⟨_ | _⟩ | _ <;> rfl

/-- Only a message about a control character says where it stands. -/
theorem message_moved (stream : TokenStream) (length : Nat) {cause : Cause}
    (named : cause.code ≠ "UnlexableCharacter") :
    (cause.moved (moveOf stream length)).message = cause.message := by
  rcases cause with ⟨_ | _⟩ | _
  · exact absurd rfl named
  all_goals rfl

/-- A query is read like its numbered one, moved. -/
theorem outcome_numbered (query : String) :
    (run settings query).outcome =
      (readClauses settings (numberedEnding (tokens settings query))
        (numbered (tokens settings query).tokens)).outcome.mapError
          (Failure.moved (moveOf (tokens settings query) query.length)) := by
  rw [← outcome_moved, ← readClauses_numbered, ← String.length_toList]
  rfl

/-- Queries that fall into the same tokens with other blanks between them are read as the same
clauses, or refused for the same cause at places that belong together. -/
theorem parse_alike {left right : String}
    (alike : (tokens settings left).Alike (tokens settings right)) :
    (∃ clauses, parse settings left = .ok clauses ∧ parse settings right = .ok clauses) ∨
    ∃ diagnostic diagnostic', parse settings left = .error diagnostic ∧
      parse settings right = .error diagnostic' ∧
      diagnostic.cause.code = diagnostic'.cause.code ∧
      (diagnostic.cause.code ≠ "UnlexableCharacter" → diagnostic.message = diagnostic'.message) ∧
      SamePlace (tokens settings left) (tokens settings right) left.length right.length
        diagnostic.column diagnostic'.column := by
  obtain ⟨sameTokens, sameEnding⟩ := numbered_of_alike alike
  have onLeft : (run settings left).outcome = _ := outcome_numbered left
  have onRight : (run settings right).outcome = _ := outcome_numbered right
  rw [← sameTokens, ← sameEnding] at onRight
  cases outcome : (readClauses settings (numberedEnding (tokens settings left))
    (numbered (tokens settings left).tokens)).outcome with
  | ok clauses =>
      rw [outcome] at onLeft onRight
      exact .inl ⟨clauses, parse_of_outcome onLeft, parse_of_outcome onRight⟩
  | error failure =>
      rw [outcome] at onLeft onRight
      refine .inr ⟨(failure.moved _).diagnose left, (failure.moved _).diagnose right,
        by rw [parse, onLeft]; rfl, by rw [parse, onRight]; rfl, ?_, ?_, ?_⟩
      · exact (code_moved ..).trans (code_moved ..).symm
      · intro named
        have named : failure.cause.code ≠ "UnlexableCharacter" := by
          rwa [← code_moved (tokens settings left) left.length]
        exact (message_moved _ _ named).trans (message_moved _ _ named).symm
      · exact samePlace_of_failure alike left.length right.length outcome

/-- A pipe in place of a number is to blame wherever it stands. -/
theorem parse_alike_spread :
    (tokens (.ofFields ["severity"]) "severity>=|").Alike
        (tokens (.ofFields ["severity"]) "  severity\t>= \n | ") ∧
      ((∃ clauses, parse (.ofFields ["severity"]) "severity>=|" = .ok clauses ∧
          parse (.ofFields ["severity"]) "  severity\t>= \n | " = .ok clauses) ∨
        ∃ diagnostic diagnostic',
          parse (.ofFields ["severity"]) "severity>=|" = .error diagnostic ∧
          parse (.ofFields ["severity"]) "  severity\t>= \n | " = .error diagnostic' ∧
          diagnostic.cause.code = diagnostic'.cause.code ∧
          (diagnostic.cause.code ≠ "UnlexableCharacter" →
            diagnostic.message = diagnostic'.message) ∧
          SamePlace (tokens (.ofFields ["severity"]) "severity>=|")
            (tokens (.ofFields ["severity"]) "  severity\t>= \n | ") 11 18
            diagnostic.column diagnostic'.column) := by
  have alike : (tokens (.ofFields ["severity"]) "severity>=|").Alike
      (tokens (.ofFields ["severity"]) "  severity\t>= \n | ") :=
    ⟨by decide +kernel, by decide +kernel⟩
  exact ⟨alike, parse_alike alike⟩

end Query
end PipeQuery

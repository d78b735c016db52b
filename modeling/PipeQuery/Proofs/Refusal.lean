import PipeQuery.Proofs.Reading.Blame
import PipeQuery.Proofs.Reading.Relocation
import PipeQuery.Proofs.Token.Cut

/-!
# A refusal names the first hopeless token

A query that is refused for another reason than a fault in its text is refused at a token or at its
end.  Cut right behind the token in front of that place, it can be continued into a query that is
read; cut right behind the token at that place, it cannot (`Query.parse_error_column`).
-/

namespace PipeQuery

/-- Which tokens in front of an offset there are is decided by the order of the tokens. -/
theorem TokenStream.filter_pos_lt {before after : List Token} {column : Nat}
    (left : ∀ token ∈ before, token.pos < column)
    (right : ∀ token ∈ after, column ≤ token.pos) :
    (before ++ after).filter (·.pos < column) = before := by
  rw [List.filter_append, List.filter_eq_self.mpr (by simpa using left),
    List.filter_eq_nil_iff.mpr (by simpa using right), List.append_nil]

namespace Query

/-! ## Fillers as texts -/

/-- A filler as it is written behind another token. -/
def Filler.spelling : Filler → List Char
  | keyword => [' ', 'i', 'n']
  | value => [' ', '1']
  | closing => [' ', ')']

private theorem readFrom_spelling (filler : Filler) :
    TokenStream.readFrom false 0 filler.spelling =
      { tokens := [{ filler.token with pos := 1 }], fault := none } := by
  cases filler <;> decide +kernel

/-- Fillers behind each other are read as themselves. -/
theorem exists_readFrom_spellings (offset : Nat) (fillers : List Filler) :
    ∃ tokens, TokenStream.readFrom false offset (fillers.flatMap Filler.spelling) =
        { tokens, fault := none } ∧
      tokens.map (Token.relocate fun _ => 0) = fillers.map Filler.token := by
  induction fillers generalizing offset with
  | nil => exact ⟨[], TokenStream.readFrom_of_end rfl, rfl⟩
  | cons filler fillers induction =>
      have first := TokenStream.readFrom_add false 0 offset filler.spelling
      rw [Nat.zero_add, readFrom_spelling] at first
      have whole : (TokenStream.readFrom false offset filler.spelling).fault = none := by
        rw [first]
        rfl
      have apart : ∀ c ∈ (fillers.flatMap Filler.spelling).head?, Text.isBreak c = true := by
        intro c isFirst
        cases fillers with
        | nil => cases isFirst
        | cons second others =>
            cases second <;> cases isFirst <;> decide
      obtain ⟨tokens, read, same⟩ := induction (offset + filler.spelling.length)
      have joined := TokenStream.readFrom_append false whole apart
      rw [read, first] at joined
      refine ⟨_, joined, ?_⟩
      rw [List.map_cons, ← same, List.map_append]
      cases filler <;> rfl

/-! ## Cutting a query -/

/-- The query cut right behind one of its tokens. -/
def cutBehind (query : String) (token : Token) : String :=
  String.ofList (query.toList.take (token.stop query.toList))

/-- The query cut right behind its last token in front of an offset. -/
def cutBefore (settings : Settings) (query : String) (column : Nat) : String :=
  match ((tokens settings query).tokens.filter (·.pos < column)).getLast? with
  | some last => cutBehind query last
  | none => ""

variable {settings : Settings} {query : String}

theorem tokens_cutBehind (strict : settings.tolerant = false) {before after : List Token}
    {last : Token} (split : (tokens settings query).tokens = before ++ after)
    (isLast : before.getLast? = some last) :
    tokens settings (cutBehind query last) = { tokens := before, fault := none } := by
  simp only [tokens, TokenStream.read, strict] at split ⊢
  obtain ⟨front, back, cut, stop, read⟩ :=
    TokenStream.exists_front_of_readFrom List.drop_zero split isLast
  have front_eq : query.toList.take (last.stop query.toList) = front := by
    rw [stop, cut, Nat.zero_add]
    exact List.take_left
  rw [cutBehind, String.toList_ofList, front_eq, read]

theorem tokens_cutBefore (strict : settings.tolerant = false) {before after : List Token}
    {column : Nat} (split : (tokens settings query).tokens = before ++ after)
    (left : ∀ token ∈ before, token.pos < column)
    (right : ∀ token ∈ after, column ≤ token.pos) :
    tokens settings (cutBefore settings query column) = { tokens := before, fault := none } := by
  have chosen := TokenStream.filter_pos_lt left right
  rw [cutBefore, split, chosen]
  cases isLast : before.getLast? with
  | some last => exact tokens_cutBehind strict split isLast
  | none =>
      obtain rfl := List.getLast?_eq_none_iff.mp isLast
      exact TokenStream.readFrom_of_end rfl

/-- A query continued behind a space has its own tokens and then those of the continuation. -/
theorem tokens_continued (strict : settings.tolerant = false) {front : String}
    {before : List Token} (read : tokens settings front = { tokens := before, fault := none })
    (more : String) :
    tokens settings (front ++ " " ++ more) =
      (TokenStream.readFrom false (front.length + 1) more.toList).prepend before := by
  have joined : (front ++ " " ++ more).toList = front.toList ++ ' ' :: more.toList := by simp
  simp only [tokens, TokenStream.read, strict] at read ⊢
  have whole : (TokenStream.readFrom false 0 front.toList).fault = none := by rw [read]
  rw [joined, TokenStream.readFrom_append_space false whole, read, Nat.zero_add,
    String.length_toList]

/-- Tokens that can be completed belong to a query that can be continued. -/
theorem exists_parse_continued (strict : settings.tolerant = false) {front : String}
    {before : List Token} (read : tokens settings front = { tokens := before, fault := none })
    (completable : RunCompletable settings before) :
    ∃ more clauses, parse settings (front ++ " " ++ more) = .ok clauses := by
  obtain ⟨fillers, -, completed⟩ := completable
  obtain ⟨clauses, outcome⟩ := completed { fault := none, length := 0 } rfl
  obtain ⟨later, spelled, same⟩ := exists_readFrom_spellings (front.length + 1) fillers
  refine ⟨String.ofList (fillers.flatMap Filler.spelling), clauses, parse_of_outcome ?_⟩
  simp only [run, tokens_continued strict read, String.toList_ofList, spelled,
    TokenStream.prepend]
  refine outcome_congr rfl rfl ?_ outcome
  have placeless : (fillers.map Filler.token).map (Token.relocate fun _ => 0) =
      fillers.map Filler.token := by
    rw [← same, List.map_map]
    exact List.map_congr_left fun _ _ => rfl
  rw [List.map_append, List.map_append, same, placeless]

/-- Tokens that are beyond help belong to a query that cannot be continued. -/
theorem parse_continued_ne_ok (strict : settings.tolerant = false) {front : String}
    {before : List Token} (read : tokens settings front = { tokens := before, fault := none })
    (doomed : RunHopeless settings before) (more : String) (clauses : List Clause) :
    parse settings (front ++ " " ++ more) ≠ .ok clauses := by
  intro parsed
  have outcome := outcome_of_parse parsed
  simp only [run, tokens_continued strict read, TokenStream.prepend] at outcome
  exact doomed _ _ _ outcome

theorem pos_lt_of_mem_tokens (strict : settings.tolerant = false) {token : Token}
    (member : token ∈ (tokens settings query).tokens) : token.pos < query.length := by
  simp only [tokens, TokenStream.read, strict] at member
  have inside := TokenStream.pos_lt_of_mem_readFrom member
  rw [Nat.zero_add, String.length_toList] at inside
  exact inside

theorem pairwise_tokens (query : String) (strict : settings.tolerant = false) :
    (tokens settings query).tokens.Pairwise (·.pos < ·.pos) := by
  simp only [tokens, TokenStream.read, strict]
  exact TokenStream.pairwise_readFrom 0 query.toList

/-- Tokens start further to the right than those in front of them. -/
theorem pos_of_split (strict : settings.tolerant = false) {before after : List Token}
    {token : Token} (split : (tokens settings query).tokens = before ++ token :: after) :
    (∀ earlier ∈ before, earlier.pos < token.pos) ∧ ∀ later ∈ after, token.pos < later.pos := by
  have ordered := pairwise_tokens query strict
  rw [split] at ordered
  obtain ⟨-, behind, crossed⟩ := List.pairwise_append.mp ordered
  exact ⟨fun earlier member => crossed earlier member token List.mem_cons_self,
    (List.pairwise_cons.mp behind).1⟩

/-- A place belongs to one token. -/
theorem eq_of_pos_eq (strict : settings.tolerant = false) {before after : List Token}
    {token other : Token} (split : (tokens settings query).tokens = before ++ token :: after)
    (member : other ∈ (tokens settings query).tokens) (same : other.pos = token.pos) :
    other = token := by
  obtain ⟨left, right⟩ := pos_of_split strict split
  rw [split] at member
  rcases List.mem_append.mp member with earlier | member
  · exact absurd same (Nat.ne_of_lt (left other earlier))
  · rcases List.mem_cons.mp member with rfl | later
    · rfl
    · exact absurd same.symm (Nat.ne_of_lt (right other later))

/-- A query whose tokens in front of a place can be completed, can be continued from there. -/
theorem exists_parse_cutBefore (strict : settings.tolerant = false) {before after : List Token}
    {column : Nat} {cause : Cause} (split : (tokens settings query).tokens = before ++ after)
    (left : ∀ token ∈ before, token.pos < column)
    (right : ∀ token ∈ after, column ≤ token.pos)
    (rescue : ¬Unresolved cause before → RunCompletable settings before)
    (resolved : ¬Unresolved cause (tokens settings (cutBefore settings query column)).tokens) :
    ∃ more clauses,
      parse settings (cutBefore settings query column ++ " " ++ more) = .ok clauses := by
  have read := tokens_cutBefore strict split left right
  rw [read] at resolved
  exact exists_parse_continued strict read (rescue resolved)

/-- A query that is refused for another reason than a fault in its text is refused at one of its
tokens or at its end.  Up to the token in front of that place it can be continued into a query that
is read, unless a version is missing there behind something that is no relation; up to the token at
that place it cannot. -/
theorem parse_error_column {diagnostic : Diagnostic} (strict : settings.tolerant = false)
    (refused : parse settings query = .error diagnostic)
    (grammatical : diagnostic.cause.isLexical = false) :
    (diagnostic.column = query.length ∨
      ∃ token ∈ (tokens settings query).tokens, token.pos = diagnostic.column) ∧
    (¬(diagnostic.cause = .expectedVersion ∧
        ∃ last ∈ (tokens settings (cutBefore settings query diagnostic.column)).tokens.getLast?,
          Keyword.relation? last.value = none) →
      ∃ more clauses,
        parse settings (cutBefore settings query diagnostic.column ++ " " ++ more) =
          .ok clauses) ∧
    (∀ token ∈ (tokens settings query).tokens, token.pos = diagnostic.column →
      ∀ more clauses, parse settings (cutBehind query token ++ " " ++ more) ≠ .ok clauses) := by
  obtain ⟨failure, outcome, rfl⟩ := exists_failure_of_parse refused
  cases blames_of_readClauses outcome with
  | lexical isLexical =>
      rw [show failure.cause.isLexical = false from grammatical] at isLexical
      cases isLexical
  | atEnd column rescue =>
      have atEnd : failure.column = query.length := column.trans String.length_toList
      have left : ∀ token ∈ (tokens settings query).tokens, token.pos < failure.column := by
        intro token member
        rw [atEnd]
        exact pos_lt_of_mem_tokens strict member
      refine ⟨.inl atEnd, ?_, ?_⟩
      · exact exists_parse_cutBefore strict (List.append_nil _).symm left (by simp) rescue
      · intro token member placed
        exact absurd placed (Nat.ne_of_lt (left token member))
  | atToken before token after split column rescue doom =>
      obtain ⟨left, right⟩ := pos_of_split strict split
      have isMember : token ∈ (tokens settings query).tokens := by simp [split]
      refine ⟨.inr ⟨token, isMember, column.symm⟩, ?_, ?_⟩
      · have within : ∀ later ∈ token :: after, failure.column ≤ later.pos := by
          intro later member
          rw [column]
          rcases List.mem_cons.mp member with rfl | member
          · exact Nat.le_refl _
          · exact Nat.le_of_lt (right later member)
        rw [← column] at left
        exact exists_parse_cutBefore strict split left within rescue
      · intro other member placed
        obtain rfl := eq_of_pos_eq strict split member (Eq.trans placed column)
        have split' : (tokens settings query).tokens = (before ++ [other]) ++ after := by
          simp [split]
        exact parse_continued_ne_ok strict
          (tokens_cutBehind strict split' List.getLast?_concat) doom

/-- A pipe in place of the number: cut in front of it the query can be continued, behind it not. -/
theorem parse_error_column_pipe :
    parse (.ofFields ["severity", "tags"]) "tags = a | severity >= | tags = b" =
      .error (.locate (.expectedNumber "severity") 23
        "tags = a | severity >= | tags = b".toList) ∧
    (∃ more clauses, parse (.ofFields ["severity", "tags"])
      ("tags = a | severity >=" ++ " " ++ more) = .ok clauses) ∧
    ∀ more clauses, parse (.ofFields ["severity", "tags"])
      ("tags = a | severity >= |" ++ " " ++ more) ≠ .ok clauses := by
  have refused : parse (.ofFields ["severity", "tags"]) "tags = a | severity >= | tags = b" =
      .error (.locate (.expectedNumber "severity") 23
        "tags = a | severity >= | tags = b".toList) := by
    decide +kernel
  obtain ⟨-, rescue, doom⟩ := parse_error_column rfl refused rfl
  have front : cutBefore (.ofFields ["severity", "tags"]) "tags = a | severity >= | tags = b" 23 =
      "tags = a | severity >=" := by
    decide +kernel
  have pipe : { kind := .pipe, value := "|", pos := 23 } ∈
      (tokens (.ofFields ["severity", "tags"]) "tags = a | severity >= | tags = b").tokens := by
    decide +kernel
  have behind : cutBehind "tags = a | severity >= | tags = b"
      { kind := .pipe, value := "|", pos := 23 } = "tags = a | severity >= |" := by
    decide +kernel
  refine ⟨refused, ?_, ?_⟩
  · have resolved := rescue (by rintro ⟨missing, -⟩; cases missing)
    rw [show (Diagnostic.locate (.expectedNumber "severity") 23
      "tags = a | severity >= | tags = b".toList).column = 23 from rfl, front] at resolved
    exact resolved
  · have hopeless := doom _ pipe rfl
    rw [behind] at hopeless
    exact hopeless

end Query
end PipeQuery

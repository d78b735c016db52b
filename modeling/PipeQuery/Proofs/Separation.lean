import PipeQuery.Proofs.Reading.Locality

/-!
# What stands between clauses

A chain of bounds, a list of values and a list of software go on to a pipe, to the end of the query
or to a closing parenthesis.  Every other clause has a single operand and ends behind it, whatever
comes next.  Hence consecutive clauses have a pipe between them unless the earlier one ends by
itself (`Query.parse_parts`); where it does, another clause may follow at once
(`Query.parse_without_pipe`).
-/

namespace PipeQuery

/-- Clauses with a single operand, which ends them. -/
def Clause.HasSingleOperand : Clause → Bool
  | matching _ _ | exact _ _ | filter _ | group _ => true
  | software request => request.listReference.isSome
  | oneOf _ _ _ | range _ _ => false

namespace Query

/-! ## Where readers stop -/

/-- Behind the tokens taken the query ends or a pipe comes, or a closing parenthesis was the last of
them. -/
def Delimited (taken rest : List Token) : Prop :=
  (∀ token ∈ rest.head?, token.kind = .pipe) ∨ ∃ last ∈ taken.getLast?, last.kind = .closeParen

theorem Delimited.behind {taken rest : List Token} (delimited : Delimited taken rest)
    (front : List Token) : Delimited (front ++ taken) rest := by
  rcases delimited with stopped | ⟨last, isLast, closes⟩
  · exact .inl stopped
  · refine .inr ⟨last, ?_, closes⟩
    rw [List.getLast?_append, isLast]
    rfl

/-- Behind a list that has ended a closing parenthesis is taken, or a pipe stands there. -/
theorem exists_delimited_of_readClosing {ending : Ending} {required : Bool} {tokens : List Token}
    {closing : Reading Unit} (ended : ∀ token ∈ tokens.head?, token.kind.endsList = true)
    (closed : readClosing ending required tokens = .ok closing) :
    ∃ taken, tokens = taken ++ closing.rest ∧ Delimited taken closing.rest := by
  rcases readClosing_cases closed with ⟨token, rest, rfl, closes, rfl⟩ | ⟨-, notClosing, rfl⟩
  · exact ⟨[token], rfl, .inr ⟨token, rfl, closes⟩⟩
  · refine ⟨[], rfl, .inl fun token isFirst => ?_⟩
    rcases TokenKind.endsList_iff.mp (ended token isFirst) with isPipe | closes
    · exact isPipe
    · exact absurd closes (notClosing token isFirst)

theorem exists_delimited_of_readOneOf {ending : Ending} {field : String} {negated : Bool}
    {tokens : List Token} {reading : Reading Clause}
    (read : readOneOf ending field negated tokens = .ok reading) :
    ∃ taken, tokens = taken ++ reading.rest ∧ Delimited taken reading.rest := by
  obtain ⟨listed, split, halted, -⟩ := ValueList.exists_taken false tokens
  obtain ⟨closing, closed, rfl⟩ := exists_of_map_ok read
  obtain ⟨taken, split', delimited⟩ :=
    exists_delimited_of_readClosing (fun token isFirst => (halted token isFirst).1) closed
  refine ⟨listed ++ taken, ?_, delimited.behind listed⟩
  rw [List.append_assoc]
  exact split.trans (congrArg (listed ++ ·) split')

theorem exists_delimited_of_readRange {ending : Ending} {field : String} {relation : Relation}
    {tokens : List Token} {reading : Reading Clause}
    (read : readRange ending field relation tokens = .ok reading) :
    ∃ taken, tokens = taken ++ reading.rest ∧ Delimited taken reading.rest := by
  obtain ⟨taken, took⟩ := exists_took_of_readRange read
  exact ⟨taken, took.split, .inl fun token isFirst => isPipe_iff.mp (took.halted token isFirst)⟩

/-- A clause with its tokens `taken` in front of `rest` ends by itself or is delimited. -/
def Ends (clause : Clause) (taken rest : List Token) : Prop :=
  clause.HasSingleOperand = true ∨ Delimited taken rest

theorem Ends.behind {clause : Clause} {taken rest : List Token} (ends : Ends clause taken rest)
    (front : List Token) : Ends clause (front ++ taken) rest :=
  ends.imp_right fun delimited => delimited.behind front

/-- The name of a list ends a request for software; entries go on to a delimiter. -/
theorem exists_ends_of_readRequested {ending : Ending} {fuzzy opened : Bool}
    {tokens : List Token} {reading : Reading SoftwareRequest}
    (read : readRequested ending fuzzy opened tokens = .ok reading) :
    ∃ taken, tokens = taken ++ reading.rest ∧
      Ends (.software reading.value) taken reading.rest := by
  obtain ⟨token, rest, rfl, -, referred | listed⟩ := exists_of_readRequested read
  · obtain ⟨-, closing, closed, rfl⟩ := referred
    obtain ⟨taken, split⟩ := suffix_of_readClosing closed
    exact ⟨token :: taken, congrArg (token :: ·) split.symm, .inl rfl⟩
  · obtain ⟨-, entries, closing, listed, closed, rfl⟩ := listed
    obtain ⟨entered, took⟩ := exists_took_of_readEntries listed
    obtain ⟨taken, split, delimited⟩ := exists_delimited_of_readClosing took.halted closed
    refine ⟨entered ++ taken, ?_, .inr (delimited.behind entered)⟩
    rw [List.append_assoc]
    exact took.split.trans (congrArg (entered ++ ·) split)

theorem exists_ends_of_readSoftware {ending : Ending} {tokens : List Token}
    {reading : Reading Clause} (read : readSoftware ending tokens = .ok reading) :
    ∃ taken, tokens = taken ++ reading.rest ∧ Ends reading.value taken reading.rest := by
  obtain ⟨keyword, rest, comparison, requested, rfl, -, -, inner, rfl⟩ :=
    exists_of_readSoftware read
  obtain ⟨opening, split⟩ := suffix_readOpening rest
  obtain ⟨taken, split', ends⟩ := exists_ends_of_readRequested inner
  refine ⟨keyword :: opening ++ taken, ?_, ends.behind (keyword :: opening)⟩
  rw [List.append_assoc, List.cons_append]
  exact congrArg (keyword :: ·) (split.symm.trans (congrArg (opening ++ ·) split'))

theorem exists_ends_of_readText {ending : Ending} {field : String}
    {comparison : Keyword.Comparison} {tokens : List Token} {reading : Reading Clause}
    (read : readText ending field comparison tokens = .ok reading) :
    ∃ taken, tokens = taken ++ reading.rest ∧ Ends reading.value taken reading.rest := by
  unfold readText at read
  split at read
  · cases read
  · next token rest =>
      split at read
      · cases read
        refine ⟨[token], rfl, .inl ?_⟩
        cases comparison <;> rfl
      · cases read

theorem exists_ends_of_readTest {ending : Ending} {field : String} {negated : Bool}
    {tokens : List Token} {reading : Reading Clause}
    (read : readTest ending field negated tokens = .ok reading) :
    ∃ taken, tokens = taken ++ reading.rest ∧ Ends reading.value taken reading.rest := by
  obtain ⟨keyword, rest, test, rfl, -, -, inner⟩ := exists_of_readTest read
  have ended : ∃ taken, rest = taken ++ reading.rest ∧ Ends reading.value taken reading.rest := by
    cases test with
    | oneOf =>
        obtain ⟨taken, split, delimited⟩ := exists_delimited_of_readOneOf inner
        exact ⟨taken, split, .inr delimited⟩
    | text comparison => exact exists_ends_of_readText inner
    | bounds relation =>
        obtain ⟨taken, split, delimited⟩ := exists_delimited_of_readRange inner
        exact ⟨taken, split, .inr delimited⟩
  obtain ⟨taken, split, ends⟩ := ended
  exact ⟨keyword :: taken, congrArg (keyword :: ·) split, ends.behind [keyword]⟩

theorem exists_ends_of_readWord {settings : Settings} {ending : Ending} {word : Token}
    {tokens : List Token} {reading : Reading (Option Clause)}
    (read : readWord settings ending word tokens = .ok reading) :
    ∃ taken, tokens = taken ++ reading.rest ∧ (reading.value = none → tokens = []) ∧
      ∀ clause ∈ reading.value, Ends clause taken reading.rest := by
  rcases exists_of_readWord read with ⟨clause, isOperand, operand⟩ | ⟨inner, readInner, rfl⟩ |
    ⟨-, -, inner, readInner, rfl⟩
  · have single : ∀ value, (clause value).HasSingleOperand = true := by
      rcases isOperand with rfl | rfl <;> exact fun _ => rfl
    cases tokens with
    | nil =>
        obtain rfl := eq_of_settle_map operand
        exact ⟨[], rfl, fun _ => rfl, by simp⟩
    | cons token rest =>
        cases operand
        exact ⟨[token], rfl, by simp, by simpa using .inl (single token.value)⟩
  · obtain ⟨taken, split, ends⟩ := exists_ends_of_readSoftware readInner
    exact ⟨taken, split, by simp [Reading.map], by simpa [Reading.map] using ends⟩
  · obtain ⟨negation, split⟩ := suffix_readNegation tokens
    obtain ⟨taken, split', ends⟩ := exists_ends_of_readTest readInner
    refine ⟨negation ++ taken, ?_, by simp [Reading.map], ?_⟩
    · rw [List.append_assoc]
      exact split.symm.trans (congrArg (negation ++ ·) split')
    · simpa [Reading.map] using ends.behind negation

/-- A clause that is read takes some tokens and ends by itself or is delimited.  There is no clause
only where the tokens end. -/
theorem exists_ends_of_readClause {settings : Settings} {ending : Ending} {token : Token}
    {tokens : List Token} {reading : Reading (Option Clause)}
    (read : readClause settings ending token tokens = .ok reading) :
    ∃ taken, tokens = taken ++ reading.rest ∧ (reading.value = none → tokens = []) ∧
      ∀ clause ∈ reading.value, Ends clause taken reading.rest := by
  unfold readClause at read
  split at read
  · exact exists_ends_of_readWord read
  · cases read
    exact ⟨[], rfl, by simp, by simp [Ends, Clause.HasSingleOperand]⟩
  · cases read

/-! ## The parts of a query -/

/-- A clause with the tokens it was read from. -/
structure Part where
  /-- The token that starts the clause. -/
  first : Token
  /-- The tokens taken behind it. -/
  others : List Token
  /-- The clause. -/
  clause : Clause

namespace Part

/-- The tokens of the part. -/
def tokens (part : Part) : List Token :=
  part.first :: part.others

/-- The clause ends whatever comes next: behind its single operand or behind a closing
parenthesis. -/
def EndsItself (part : Part) : Bool :=
  part.clause.HasSingleOperand || part.others.getLast?.any (·.kind == .closeParen)

theorem endsItself_of_ends {first : Token} {others rest : List Token} {clause : Clause}
    (ends : Ends clause others rest) :
    (mk first others clause).EndsItself = true ∨ ∀ token ∈ rest.head?, token.kind = .pipe := by
  rcases ends with single | stopped | ⟨last, isLast, closes⟩
  · exact .inl (by simp [EndsItself, single])
  · exact .inr stopped
  · rw [Option.mem_def] at isLast
    exact .inl (by simp [EndsItself, isLast, closes])

end Part

/-- The tokens are those of the parts, in turn, with pipes in between.  A part that does not end
itself has a pipe behind it or is the last one; a filter or a grouping without an operand may stand
at the end and is no part. -/
inductive Parted (settings : Settings) (ending : Ending) : List Token → List Part → Prop where
  | nil : Parted settings ending [] []
  | bare {word : Token} {lookedAhead : Bool}
      (read : readClause settings ending word [] = .ok { value := none, lookedAhead, rest := [] }) :
      Parted settings ending [word] []
  | pipe {token : Token} {rest : List Token} {parts : List Part} (isPipe : token.kind = .pipe)
      (later : Parted settings ending rest parts) : Parted settings ending (token :: rest) parts
  | part {first : Token} {others rest : List Token} {clause : Clause} {parts : List Part}
      {lookedAhead : Bool} (notPipe : first.kind ≠ .pipe)
      (read : readClause settings ending first (others ++ rest) =
        .ok { value := some clause, lookedAhead, rest })
      (apart : (Part.mk first others clause).EndsItself = true ∨
        ∀ token ∈ rest.head?, token.kind = .pipe)
      (later : Parted settings ending rest parts) :
      Parted settings ending (first :: (others ++ rest)) ({ first, others, clause } :: parts)

/-- Tokens that are read into clauses are those of parts with these clauses. -/
theorem exists_parted_of_outcome {settings : Settings} {ending : Ending} {tokens : List Token}
    {clauses : List Clause}
    (outcome : (readClauses settings ending tokens).outcome = .ok clauses) :
    ∃ parts : List Part, parts.map Part.clause = clauses ∧
      Parted settings ending tokens parts := by
  fun_induction readClauses settings ending tokens generalizing clauses with
  | case1 =>
      cases outcome
      exact ⟨[], rfl, .nil⟩
  | case2 => cases outcome
  | case3 token rest isPipe induction =>
      obtain ⟨parts, same, parted⟩ := induction outcome
      exact ⟨parts, same, .pipe isPipe parted⟩
  | case4 token rest notPipe reading read induction =>
      obtain ⟨later, inner, rfl⟩ := exists_of_outcome_push outcome
      obtain ⟨parts, rfl, parted⟩ := induction inner
      obtain ⟨taken, split, atEnd, ends⟩ := exists_ends_of_readClause read
      obtain ⟨value, lookedAhead, left⟩ := reading
      cases value with
      | none =>
          obtain rfl := atEnd rfl
          obtain ⟨rfl, rfl⟩ := List.append_eq_nil_iff.mp split.symm
          cases parted
          exact ⟨[], rfl, .bare read⟩
      | some clause =>
          subst split
          exact ⟨{ first := token, others := taken, clause } :: parts, rfl,
            .part notPipe read (Part.endsItself_of_ends (ends clause rfl)) parted⟩
  | case5 => cases outcome

namespace Parted

variable {settings : Settings} {ending : Ending} {tokens : List Token}

/-- In front of the first part there are only pipes. -/
theorem exists_of_cons {part : Part} {parts : List Part}
    (parted : Parted settings ending tokens (part :: parts)) :
    ∃ pipes rest, tokens = pipes ++ (part.tokens ++ rest) ∧ (∀ token ∈ pipes, token.kind = .pipe) ∧
      part.first.kind ≠ .pipe ∧
      (part.EndsItself = true ∨ ∀ token ∈ rest.head?, token.kind = .pipe) ∧
      Parted settings ending rest parts := by
  generalize listed : part :: parts = all at parted
  induction parted with
  | nil => cases listed
  | bare => cases listed
  | @pipe token rest all isPipe later induction =>
      obtain ⟨pipes, rest, rfl, arePipes, found⟩ := induction listed
      exact ⟨token :: pipes, rest, rfl, List.forall_mem_cons.mpr ⟨isPipe, arePipes⟩, found⟩
  | part notPipe read apart later =>
      cases listed
      exact ⟨[], _, rfl, by simp, notPipe, apart, later⟩

/-- Between consecutive parts there are only pipes, and none only where the earlier part ends
itself. -/
theorem exists_pipes {front back : List Part} {first second : Part}
    (parted : Parted settings ending tokens (front ++ first :: second :: back)) :
    ∃ before pipes after,
      tokens = before ++ (first.tokens ++ (pipes ++ (second.tokens ++ after))) ∧
      (∀ token ∈ pipes, token.kind = .pipe) ∧ (pipes = [] → first.EndsItself = true) := by
  induction front generalizing tokens with
  | nil =>
      obtain ⟨before, rest, rfl, -, -, apart, later⟩ := parted.exists_of_cons
      obtain ⟨pipes, after, rfl, arePipes, notPipe, -⟩ := later.exists_of_cons
      refine ⟨before, pipes, after, rfl, arePipes, ?_⟩
      rintro rfl
      exact apart.resolve_right fun stopped => notPipe (stopped second.first rfl)
  | cons part front induction =>
      obtain ⟨pipes, rest, rfl, -, -, -, later⟩ := parted.exists_of_cons
      obtain ⟨before, between, after, rfl, found⟩ := induction later
      exact ⟨pipes ++ (part.tokens ++ before), between, after, by simp, found⟩

/-- A part needs a pipe of its own unless an earlier one ends itself.  The first part needs none. -/
theorem length_le (parted : Parted settings ending tokens parts) :
    parts.length + (if ∀ token ∈ tokens.head?, token.kind = .pipe then 1 else 0) ≤
      tokens.countP (·.kind == .pipe) + parts.countP Part.EndsItself + 1 := by
  induction parted with
  | nil => simp
  | bare => simp
  | pipe isPipe later induction =>
      simp [isPipe] at induction ⊢
      omega
  | @part first others rest clause parts lookedAhead notPipe read apart later induction =>
      have counted : (first :: (others ++ rest)).countP (·.kind == .pipe) =
          others.countP (·.kind == .pipe) + rest.countP (·.kind == .pipe) := by
        simp [notPipe]
      have notFirst : ¬∀ token ∈ (first :: (others ++ rest)).head?, token.kind = .pipe := by
        simpa using notPipe
      rw [counted, if_neg notFirst, List.length_cons]
      rcases apart with ends | stopped
      · rw [List.countP_cons_of_pos ends]
        omega
      · rw [if_pos stopped] at induction
        rw [List.countP_cons]
        omega

end Parted

/-- A query that is read falls into the parts of its clauses.  Between consecutive clauses there is
a pipe unless the earlier one ends itself, so there are at most as many clauses as pipes and clauses
that end themselves, and one more. -/
theorem parse_parts {settings : Settings} {query : String} {clauses : List Clause}
    (parsed : parse settings query = .ok clauses) :
    ∃ parts : List Part, parts.map Part.clause = clauses ∧
      Parted settings { fault := none, length := query.length } (tokens settings query).tokens
        parts ∧
      (∀ front first second back, parts = front ++ first :: second :: back →
        ∃ before pipes after, (tokens settings query).tokens =
            before ++ (first.tokens ++ (pipes ++ (second.tokens ++ after))) ∧
          (∀ token ∈ pipes, token.kind = .pipe) ∧ (pipes = [] → first.EndsItself = true)) ∧
      clauses.length ≤ (tokens settings query).tokens.countP (·.kind == .pipe) +
        parts.countP Part.EndsItself + 1 := by
  have outcome := outcome_of_parse parsed
  have whole : (tokens settings query).fault = none := fault_eq_none_of_outcome outcome
  rw [run, whole, String.length_toList] at outcome
  obtain ⟨parts, rfl, parted⟩ := exists_parted_of_outcome outcome
  refine ⟨parts, rfl, parted, ?_, ?_⟩
  · rintro front first second back rfl
    exact parted.exists_pipes
  · have bounded := parted.length_le
    rw [List.length_map]
    omega

/-- A pipe behind a comma belongs to a list, which ends itself; a pipe behind a text does not. -/
theorem parse_parts_list :
    parse (.ofFields ["id", "severity", "tags"]) "tags in (a, | b) id = x | group id" =
        .ok [.oneOf "tags" ["a", "b"] false, .exact "id" "x", .group "id"] ∧
      ∃ parts : List Part,
        parts.map Part.clause = [.oneOf "tags" ["a", "b"] false, .exact "id" "x", .group "id"] ∧
        Parted (.ofFields ["id", "severity", "tags"]) { fault := none, length := 34 }
          (tokens (.ofFields ["id", "severity", "tags"])
            "tags in (a, | b) id = x | group id").tokens parts ∧
        (∀ front first second back, parts = front ++ first :: second :: back →
          ∃ before pipes after, (tokens (.ofFields ["id", "severity", "tags"])
              "tags in (a, | b) id = x | group id").tokens =
              before ++ (first.tokens ++ (pipes ++ (second.tokens ++ after))) ∧
            (∀ token ∈ pipes, token.kind = .pipe) ∧ (pipes = [] → first.EndsItself = true)) ∧
        3 ≤ (tokens (.ofFields ["id", "severity", "tags"])
            "tags in (a, | b) id = x | group id").tokens.countP (·.kind == .pipe) +
          parts.countP Part.EndsItself + 1 := by
  have parsed : parse (.ofFields ["id", "severity", "tags"])
      "tags in (a, | b) id = x | group id" =
        .ok [.oneOf "tags" ["a", "b"] false, .exact "id" "x", .group "id"] := by
    decide +kernel
  exact ⟨parsed, parse_parts parsed⟩

/-- Two comparisons with a text are read without any pipe. -/
theorem parse_without_pipe :
    parse (.ofFields ["id"]) "id = x id = y" = .ok [.exact "id" "x", .exact "id" "y"] ∧
      (tokens (.ofFields ["id"]) "id = x id = y").tokens.countP (·.kind == .pipe) = 0 := by
  decide +kernel

end Query
end PipeQuery

import PipeQuery.Proofs.Reading.Locality
import PipeQuery.Proofs.Written

/-!
# Tokens that are read as clauses

For every way to write a clause there are tokens; whatever comes next, as long as it stops a clause,
they are read as this clause and nothing else is taken (`Query.ReadsClause`).  Such tokens with
pipes between them are read as the clauses one after the other.
-/

namespace PipeQuery

/-- Tokens between the items of a list. -/
def commaTokens : List Token := [.bare .comma ","]

/-- Tokens between clauses. -/
def pipeTokens : List Token := [.bare .pipe "|"]

namespace Query

/-! ## Tokens of the parts of clauses -/

/-- The token of a value. -/
def ReadsValue (value : String) (tokens : List Token) : Prop :=
  tokens = [.bare .string value]

/-- The tokens of a demand on a version. -/
def ReadsConstraint (constraint : Constraint) (tokens : List Token) : Prop :=
  ∃ kind name, tokens = [.bare kind name, .bare .string constraint.version] ∧
    (kind = .ident ∨ kind = .operator) ∧ Keyword.relation? name = some constraint.relation

/-- The tokens of a software. -/
def ReadsSoftware (software : Software) (tokens : List Token) : Prop :=
  ∃ demands, Followed [] [] ReadsConstraint software.versions demands ∧
    tokens = .bare .string software.name :: demands

/-- The tokens of a bound. -/
def ReadsBound (bound : Relation × Binary64) (tokens : List Token) : Prop :=
  ∃ kind word, tokens = [.bare kind bound.1.keyword, .bare .ident word] ∧
    (kind = .ident ∨ kind = .operator) ∧ Binary64.ofWord? word = some bound.2

/-! ## Reading the parts of clauses -/

theorem read_followed_values {values : List String} {tokens : List Token} {close : Token}
    (closes : close.kind = .closeParen)
    (followed : Followed [] commaTokens ReadsValue values tokens) (more : List Token) :
    ValueList.read false (tokens ++ close :: more) =
      { values, opened := false, rest := close :: more } := by
  induction followed with
  | nil => exact ValueList.read_of_ends more ⟨TokenKind.endsList_iff.mpr (.inr closes), rfl⟩
  | cons first others induction =>
      cases first
      simp [commaTokens, ValueList.read, TokenKind.endsList, induction, ValueList.push]

theorem read_joined_values {values : List String} {tokens : List Token} {close : Token}
    (closes : close.kind = .closeParen)
    (joined : Joined [] commaTokens ReadsValue values tokens) (more : List Token) :
    ValueList.read false (tokens ++ close :: more) =
      { values, opened := false, rest := close :: more } := by
  cases joined with
  | nil => exact ValueList.read_of_ends more ⟨TokenKind.endsList_iff.mpr (.inr closes), rfl⟩
  | cons first others =>
      cases first
      simp [ValueList.read, TokenKind.endsList, read_followed_values closes others,
        ValueList.push]

/-- Demands on a version are added to those that the software has. -/
theorem readEntries_followed_constraints {constraints : List Constraint} {tokens : List Token}
    (followed : Followed [] [] ReadsConstraint constraints tokens) (ending : Ending)
    (current : Software) (more : List Token) :
    readEntries ending (some current) (tokens ++ more) =
      readEntries ending (some { current with versions := current.versions ++ constraints })
        more := by
  induction followed generalizing current with
  | nil => simp
  | @cons constraint constraints _ rest first others induction =>
      obtain ⟨kind, name, rfl, isName, isRelation⟩ := first
      have goesOn : ¬kind.endsList = true := by
        rcases isName with rfl | rfl <;> decide
      have notComma : kind ≠ .comma := by
        rcases isName with rfl | rfl <;> decide
      have made : ∀ unlexed, readConstraint (.bare kind name)
          (.bare .string constraint.version) unlexed = .ok constraint := by
        intro unlexed
        simp [readConstraint, Token.isText, TokenKind.isText, isRelation]
      have step := readEntries_some_cons ending current (.bare kind name)
        (.bare .string constraint.version :: (rest ++ more))
      rw [if_neg (by exact goesOn), if_neg (by exact notComma)] at step
      simp only [made] at step
      have inner := induction (current.withVersion constraint.relation constraint.version)
      simpa [Software.withVersion, List.append_assoc] using step.trans inner

theorem readEntries_software {software : Software} {tokens : List Token}
    (reads : ReadsSoftware software tokens) (ending : Ending) (more : List Token) :
    readEntries ending none (tokens ++ more) = readEntries ending (some software) more := by
  obtain ⟨demands, followed, rfl⟩ := reads
  have named : readEntries ending none (.bare .string software.name :: (demands ++ more)) =
      readEntries ending (some (.named software.name)) (demands ++ more) := by
    rw [readEntries_none_cons, if_neg (nomatch ·), if_pos (by rfl)]
    rfl
  have demanded := readEntries_followed_constraints followed ending (.named software.name) more
  simpa [Software.named] using named.trans demanded

theorem readEntries_followed_entries {entries : List Software} {tokens : List Token}
    {close : Token} (closes : close.kind = .closeParen)
    (followed : Followed [] commaTokens ReadsSoftware entries tokens) (ending : Ending)
    (current : Software) (more : List Token) :
    readEntries ending (some current) (tokens ++ close :: more) =
      .ok { value := current :: entries, lookedAhead := true, rest := close :: more } := by
  induction followed generalizing current with
  | nil =>
      have ends : close.kind.endsList = true := TokenKind.endsList_iff.mpr (.inr closes)
      rw [List.nil_append, readEntries_some_cons, if_pos ends]
  | @cons software entries tokens rest first others induction =>
      have inner := (readEntries_software first ending (rest ++ close :: more)).trans
        (induction software)
      have step := readEntries_some_cons ending current (.bare .comma ",")
        (tokens ++ (rest ++ close :: more))
      rw [if_neg (by decide), if_pos (by rfl), inner] at step
      simpa [commaTokens, List.append_assoc, Except.map, Reading.map] using step

theorem relation?_keyword (relation : Relation) :
    Keyword.relation? relation.keyword = some relation := by
  cases relation <;> decide +kernel

/-- The keyword for a relation has no other meaning behind a field. -/
theorem test?_keyword (relation : Relation) :
    test? relation.keyword = some (.bounds relation) := by
  cases relation <;> decide +kernel

theorem readBound_word {word : String} {value : Binary64}
    (read : Binary64.ofWord? word = some value) (field : String) (unlexed : List Token) :
    readBound field (.bare .ident word) unlexed = .ok value := by
  simp [readBound, read]

/-- Bounds are given one after the other. -/
theorem readChain_followed_bounds {bounds : List (Relation × Binary64)} {tokens : List Token}
    (followed : Followed [] [] ReadsBound bounds tokens) (ending : Ending) (field : String)
    (given : Bounds) (more : List Token) :
    readChain ending field given (tokens ++ more) =
      readChain ending field (bounds.foldl (fun given bound => given.set bound.1 bound.2) given)
        more := by
  induction followed generalizing given with
  | nil => rfl
  | @cons bound bounds _ rest first others induction =>
      obtain ⟨kind, word, rfl, isName, read⟩ := first
      have notPipe : kind ≠ .pipe := by
        rcases isName with rfl | rfl <;> decide
      have isRelation : relation? (.bare kind bound.1.keyword) = some bound.1 := by
        rcases isName with rfl | rfl <;>
          simp [relation?, Token.isText, TokenKind.isText, relation?_keyword]
      have inner := induction (given.set bound.1 bound.2)
      simp [readChain, notPipe, isRelation, readBound_word read, inner]

end Query

/-- The bounds one after the other make up the bounds. -/
theorem Bounds.foldl_set_toList (bounds : Bounds) :
    bounds.toList.foldl (fun given bound => given.set bound.1 bound.2) .empty = bounds := by
  obtain ⟨gt, gte, lt, lte, eq⟩ := bounds
  cases gt <;> cases gte <;> cases lt <;> cases lte <;> cases eq <;> rfl

theorem Bounds.toList_ne_nil {bounds : Bounds} (wellFormed : bounds.WellFormed) :
    bounds.toList ≠ [] := by
  intro nothing
  obtain ⟨relation, given⟩ := wellFormed.given
  have rebuilt := bounds.foldl_set_toList
  rw [nothing] at rebuilt
  rw [← rebuilt] at given
  simp at given

namespace Query

/-! ## Reading clauses -/

/-- Tokens that are read as this clause, whatever clause comes next. -/
def ReadsClause (settings : Settings) (clause : Clause) (tokens : List Token) : Prop :=
  ∃ first others, tokens = first :: others ∧ first.kind ≠ .pipe ∧
    ∀ ending more, Halts isPipe ending more → ∃ lookedAhead,
      readClause settings ending first (others ++ more) =
        .ok { value := some clause, lookedAhead, rest := more }

variable {settings : Settings}

theorem readClause_field {field : String} (writes : settings.WritesField field) (ending : Ending)
    (rest : List Token) :
    readClause settings ending (.bare .ident field) rest =
      (readTest ending field (readNegation rest).1 (readNegation rest).2).map
        (Reading.map some) := by
  have admitted : settings.admits field = true := by
    simpa [Settings.admits] using writes.names.admitted
  have free : (Token.bare .ident field).value ∉ Keyword.reserved := writes.names.free
  have word := readWord_field free settings ending rest
  rw [if_pos (by exact admitted)] at word
  exact word

/-- A keyword that does not negate is read as the test it asks for. -/
theorem readClause_test {field keyword : String} {kind : TokenKind} {test : Test}
    (writes : settings.WritesField field) (isName : kind = .ident ∨ kind = .operator)
    (unnegated : Keyword.isNot keyword = false) (asked : test? keyword = some test)
    (ending : Ending) (rest : List Token) :
    readClause settings ending (.bare .ident field) (.bare kind keyword :: rest) =
      (test.read ending field false rest).map (Reading.map some) := by
  have unnegating : readNegation (.bare kind keyword :: rest) =
      (false, .bare kind keyword :: rest) := by
    simp [readNegation, unnegated]
  rw [readClause_field writes, unnegating, readTest_cons isName asked]

theorem readClause_negated {field : String} (writes : settings.WritesField field)
    (ending : Ending) (rest : List Token) :
    readClause settings ending (.bare .ident field) (.bare .ident "not" :: rest) =
      (readTest ending field true rest).map (Reading.map some) := by
  have negates : Keyword.isNot "not" = true := by decide +kernel
  rw [readClause_field writes]
  simp [readNegation, negates]

theorem readOneOf_joined_values {values : List String} {tokens : List Token}
    (joined : Joined [] commaTokens ReadsValue values tokens) (ending : Ending) (field : String)
    (negated : Bool) (more : List Token) :
    readOneOf ending field negated
        (.bare .openParen "(" :: (tokens ++ .bare .closeParen ")" :: more)) =
      .ok { value := .oneOf field values negated, lookedAhead := false, rest := more } := by
  have closes : (Token.bare .closeParen ")").kind = .closeParen := rfl
  have list := read_joined_values closes joined more
  simp [readOneOf, ValueList.read, TokenKind.endsList, list, readClosing, Except.map, Reading.map]

theorem readsClause_oneOf {field : String} {values : List String} {tokens : List Token}
    (writes : settings.WritesField field)
    (joined : Joined [] commaTokens ReadsValue values tokens) :
    ReadsClause settings (.oneOf field values false)
      (.bare .ident field :: .bare .ident "in" :: .bare .openParen "(" ::
        (tokens ++ [.bare .closeParen ")"])) := by
  refine ⟨_, _, rfl, nofun, fun ending more _ => ⟨false, ?_⟩⟩
  have unnegated : Keyword.isNot "in" = false := by decide +kernel
  have asked : test? "in" = some .oneOf := by decide +kernel
  rw [List.cons_append, readClause_test writes (.inl rfl) unnegated asked]
  have read := readOneOf_joined_values joined ending field false more
  simp [Test.read, read, Except.map, Reading.map]

theorem readsClause_notOneOf {field : String} {values : List String} {tokens : List Token}
    (writes : settings.WritesField field)
    (joined : Joined [] commaTokens ReadsValue values tokens) :
    ReadsClause settings (.oneOf field values true)
      (.bare .ident field :: .bare .ident "not" :: .bare .ident "in" :: .bare .openParen "(" ::
        (tokens ++ [.bare .closeParen ")"])) := by
  refine ⟨_, _, rfl, nofun, fun ending more _ => ⟨false, ?_⟩⟩
  have asked : test? "in" = some .oneOf := by decide +kernel
  have isName : (Token.bare .ident "in").kind = .ident ∨
      (Token.bare .ident "in").kind = .operator := .inl rfl
  have test := readTest_cons isName asked ending field true
  rw [List.cons_append, readClause_negated writes, List.cons_append, test]
  have read := readOneOf_joined_values joined ending field true more
  simp [Test.read, read, Except.map, Reading.map]

/-- A field and an operator that compares with the text behind it. -/
theorem readsClause_text {field operator text : String} {comparison : Keyword.Comparison}
    (writes : settings.WritesField field) (unnegated : Keyword.isNot operator = false)
    (asked : test? operator = some (.text comparison)) :
    ReadsClause settings
      (match comparison with
        | .matching => .matching field text
        | .equal => .exact field text)
      [.bare .ident field, .bare .operator operator, .bare .string text] := by
  refine ⟨_, _, rfl, nofun, fun ending more _ => ⟨false, ?_⟩⟩
  rw [List.cons_append, readClause_test writes (.inr rfl) unnegated asked]
  cases comparison <;> rfl

theorem readsClause_range {field : String} {bounds : Bounds} {tokens : List Token}
    (writes : settings.WritesField field) (wellFormed : bounds.WellFormed)
    (followed : Followed [] [] ReadsBound bounds.toList tokens) :
    ReadsClause settings (.range field bounds) (.bare .ident field :: tokens) := by
  refine ⟨_, _, rfl, nofun, fun ending more halts => ⟨true, ?_⟩⟩
  have rebuilt := bounds.foldl_set_toList
  obtain ⟨bound, others, split⟩ := List.exists_cons_of_ne_nil (Bounds.toList_ne_nil wellFormed)
  rw [split] at followed rebuilt
  cases followed with
  | cons first followed =>
      obtain ⟨kind, word, rfl, isName, read⟩ := first
      have unnegated : Keyword.isNot bound.1.keyword = false := by
        cases bound.1 <;> decide +kernel
      have chain := readChain_followed_bounds followed ending field
        (Bounds.empty.set bound.1 bound.2) more
      rw [List.foldl_cons] at rebuilt
      rw [rebuilt, readChain_halts field bounds halts] at chain
      simp only [List.nil_append, List.cons_append]
      rw [readClause_test writes isName unnegated (test?_keyword bound.1)]
      simp [Test.read, readRange, readBound_word read, chain, bind, Except.bind, Except.map,
        Reading.map, pure, Except.pure]

theorem readsClause_bare (text : String) :
    ReadsClause settings (.matching settings.fullTextField text) [.bare .string text] :=
  ⟨_, _, rfl, nofun, fun _ _ _ => ⟨false, rfl⟩⟩

theorem readsClause_filter (name : String) :
    ReadsClause settings (.filter name) [.bare .ident "filter", .bare .string name] := by
  refine ⟨_, _, rfl, nofun, fun ending more _ => ⟨false, ?_⟩⟩
  have isFilter : (Token.bare .ident "filter").value = "filter" := rfl
  exact (readWord_filter isFilter settings ending (.bare .string name :: more)).trans rfl

theorem readsClause_group (field : String) :
    ReadsClause settings (.group field) [.bare .ident "group", .bare .string field] := by
  refine ⟨_, _, rfl, nofun, fun ending more _ => ⟨false, ?_⟩⟩
  have isGroup : (Token.bare .ident "group").value = "group" := rfl
  exact (readWord_group isGroup settings ending (.bare .string field :: more)).trans rfl

/-- Behind the software word and its keyword a request is read. -/
theorem readClause_software {kind : TokenKind} (isName : kind = .ident ∨ kind = .operator)
    (ending : Ending) (fuzzy : Bool) (rest : List Token) :
    readClause settings ending (.bare .ident "software")
        (.bare kind (SoftwareRequest.keyword fuzzy) :: rest) =
      ((readRequested ending fuzzy (readOpening rest).1 (readOpening rest).2).map
        (Reading.map .software)).map (Reading.map some) := by
  have isSoftware : (Token.bare .ident "software").value = "software" := rfl
  have word := readWord_software isSoftware settings ending
    (.bare kind (SoftwareRequest.keyword fuzzy) :: rest)
  have isKeyword : ((Token.bare kind (SoftwareRequest.keyword fuzzy)).isText ||
      (Token.bare kind (SoftwareRequest.keyword fuzzy)).kind = .operator) = true := by
    rcases isName with rfl | rfl <;> rfl
  have compares : Keyword.comparison? (SoftwareRequest.keyword fuzzy) =
      some (if fuzzy then .matching else .equal) := by
    cases fuzzy <;> decide +kernel
  have requested := readSoftware_of_comparison isKeyword compares ending rest
  have fuzziness : ((if fuzzy then Keyword.Comparison.matching else .equal) == .matching) =
      fuzzy := by
    cases fuzzy <;> rfl
  rw [fuzziness] at requested
  rw [requested] at word
  exact word

theorem readsClause_listed {entries : List Software} {fuzzy : Bool} {kind : TokenKind}
    {tokens : List Token} (isName : kind = .ident ∨ kind = .operator) (nonempty : entries ≠ [])
    (joined : Joined [] commaTokens ReadsSoftware entries tokens) :
    ReadsClause settings (.software { entries, listReference := none, fuzzy })
      (.bare .ident "software" :: .bare kind (SoftwareRequest.keyword fuzzy) ::
        .bare .openParen "(" :: (tokens ++ [.bare .closeParen ")"])) := by
  refine ⟨_, _, rfl, nofun, fun ending more _ => ⟨false, ?_⟩⟩
  cases joined with
  | nil => exact absurd rfl nonempty
  | @cons software entries tokens rest first others =>
      have closes : (Token.bare .closeParen ")").kind = .closeParen := rfl
      have listed := (readEntries_software first ending
        (rest ++ .bare .closeParen ")" :: more)).trans
          (readEntries_followed_entries closes others ending software more)
      have closed := readClosing_closeParen closes ending true more
      obtain ⟨demands, -, rfl⟩ := first
      rw [List.cons_append] at listed
      have requested := readRequested_of_entries fuzzy (by rfl) (by rfl) listed closed
      have opened : ∀ tokens, readOpening (.bare .openParen "(" :: tokens) = (true, tokens) :=
        fun _ => rfl
      rw [List.cons_append, readClause_software isName, List.cons_append, opened]
      simp only [List.append_assoc, List.cons_append, List.nil_append] at requested ⊢
      rw [requested]
      rfl

theorem readsClause_referred {reference : String} {fuzzy : Bool} {kind : TokenKind}
    (isName : kind = .ident ∨ kind = .operator) (isReference : Text.IsReference reference) :
    ReadsClause settings (.software { entries := [], listReference := some reference, fuzzy })
      [.bare .ident "software", .bare kind (SoftwareRequest.keyword fuzzy),
        .bare .ident reference] := by
  refine ⟨_, _, rfl, nofun, fun ending more halts => ⟨true, ?_⟩⟩
  have isText : (Token.bare .ident reference).isText = true := rfl
  have refers : isListReference (.bare .ident reference) = true := by
    simp [isListReference, isReference.marked]
  have requested : readRequested ending fuzzy false (.bare .ident reference :: more) =
      .ok { value := { entries := [], listReference := some reference, fuzzy }
            lookedAhead := true
            rest := more } := by
    rw [readRequested, if_pos isText, if_pos refers, readClosing_halts halts]
    rfl
  simp only [List.cons_append, List.nil_append]
  rw [readClause_software isName, readOpening_of_text isText, requested]
  rfl

/-! ## Clauses behind each other -/

theorem halts_followed_clauses {ending : Ending} {clauses : List Clause} {tokens : List Token}
    (followed : Followed [] pipeTokens (ReadsClause settings) clauses tokens)
    (whole : ending.fault = none) : Halts isPipe ending tokens := by
  cases followed with
  | nil => exact whole
  | cons first others => exact isPipe_pipe

/-- A clause that is read goes in front of the clauses behind it. -/
theorem outcome_readsClause {ending : Ending} {clause : Clause} {clauses : List Clause}
    {tokens more : List Token} (reads : ReadsClause settings clause tokens)
    (halts : Halts isPipe ending more)
    (outcome : (readClauses settings ending more).outcome = .ok clauses) :
    (readClauses settings ending (tokens ++ more)).outcome = .ok (clause :: clauses) := by
  obtain ⟨first, others, rfl, notPipe, read⟩ := reads
  obtain ⟨lookedAhead, read⟩ := read ending more halts
  rw [List.cons_append, readClauses_of_ok notPipe read, outcome_push, outcome]
  rfl

theorem outcome_followed_clauses {ending : Ending} {clauses : List Clause} {tokens : List Token}
    (followed : Followed [] pipeTokens (ReadsClause settings) clauses tokens)
    (whole : ending.fault = none) :
    (readClauses settings ending tokens).outcome = .ok clauses := by
  induction followed with
  | nil =>
      rw [readClauses, settle_of_fault whole]
      rfl
  | @cons clause clauses text rest first others induction =>
      have read := outcome_readsClause first (halts_followed_clauses others whole) induction
      have skipped : readClauses settings ending (.bare .pipe "|" :: (text ++ rest)) =
          readClauses settings ending (text ++ rest) :=
        readClauses_pipe settings ending (text ++ rest) rfl
      rw [List.append_assoc]
      exact (congrArg Run.outcome skipped).trans read

theorem outcome_joined_clauses {ending : Ending} {clauses : List Clause} {tokens : List Token}
    (joined : Joined [] pipeTokens (ReadsClause settings) clauses tokens)
    (whole : ending.fault = none) :
    (readClauses settings ending tokens).outcome = .ok clauses := by
  cases joined with
  | nil => exact outcome_followed_clauses .nil whole
  | cons first others =>
      exact outcome_readsClause first (halts_followed_clauses others whole)
        (outcome_followed_clauses others whole)

end Query
end PipeQuery

import PipeQuery.Proofs.Reading.Locality

/-!
# What a request for software is

Behind the software word a request is read exactly where one of two forms stands
(`Query.readClause_software_iff`).  Both start with a comparison keyword and perhaps an opening
parenthesis.  Then comes the name of a list, or there come entries with commas between them; an
entry is a name with pairs of a relation and a version behind it.
-/

namespace PipeQuery
namespace Query

/-! ## The grammar -/

/-- The tokens are pairs of a relation and a text, and these are the demands they make. -/
inductive IsVersions : List Token → List Constraint → Prop where
  | nil : IsVersions [] []
  | cons {operator version : Token} {relation : Relation} {tokens : List Token}
      {versions : List Constraint} (relates : Keyword.relation? operator.value = some relation)
      (isText : version.isText = true) (later : IsVersions tokens versions) :
      IsVersions (operator :: version :: tokens)
        ({ relation, version := version.value } :: versions)

/-- The tokens are the name of a software and the demands on its version. -/
inductive IsEntry : List Token → Software → Prop where
  | mk {name : Token} {tokens : List Token} {versions : List Constraint}
      (isText : name.isText = true) (later : IsVersions tokens versions) :
      IsEntry (name :: tokens) { name := name.value, versions }

/-- The tokens are entries, one at least, with one or more commas between any two of them. -/
inductive IsEntries : List Token → List Software → Prop where
  | single {tokens : List Token} {software : Software} (entry : IsEntry tokens software) :
      IsEntries tokens [software]
  | cons {tokens commas others : List Token} {software : Software} {entries : List Software}
      (entry : IsEntry tokens software) (separated : commas ≠ [])
      (areCommas : ∀ token ∈ commas, token.kind = .comma) (later : IsEntries others entries) :
      IsEntries (tokens ++ (commas ++ others)) (software :: entries)

/-- The tokens in front of `rest` ask for software.  A closing parenthesis is taken when it comes
next, and one has to come where one was opened. -/
inductive IsRequested (fuzzy opened : Bool) :
    List Token → List Token → SoftwareRequest → Prop where
  /-- They name a list. -/
  | reference {reference : Token} {closing : Option Token} {rest : List Token}
      (isReference : isListReference reference = true)
      (closes : ∀ token ∈ closing, token.kind = .closeParen)
      (required : opened = true → closing.isSome = true)
      (left : closing = none → ∀ token ∈ rest.head?, token.kind ≠ .closeParen) :
      IsRequested fuzzy opened (reference :: (closing.toList ++ rest)) rest
        { entries := [], listReference := some reference.value, fuzzy }
  /-- They are entries, and without a closing parenthesis a pipe or the end of the query follows. -/
  | entries {name : Token} {others : List Token} {entries : List Software}
      {closing : Option Token} {rest : List Token} (entered : IsEntries (name :: others) entries)
      (noReference : isListReference name = false)
      (closes : ∀ token ∈ closing, token.kind = .closeParen)
      (required : opened = true → closing.isSome = true)
      (left : closing = none → ∀ token ∈ rest.head?, token.kind = .pipe) :
      IsRequested fuzzy opened (name :: (others ++ (closing.toList ++ rest))) rest
        { entries, listReference := none, fuzzy }

/-- The token is a keyword that asks for software, alike or the same. -/
structure Compares (keyword : Token) (fuzzy : Bool) : Prop where
  /-- Keywords are texts and operators. -/
  isName : keyword.isText = true ∨ keyword.kind = .operator
  /-- The case of letters does not matter. -/
  spelled : Keyword.lower keyword.value ∈ ["=", "eq", "is", "in", "match", "like", "~"]
  /-- Only some of the keywords are content with names that are alike. -/
  fuzzy_iff : fuzzy = true ↔ Keyword.lower keyword.value ∈ ["match", "like", "~"]

/-- The tokens in front of `rest` are a request for software. -/
inductive IsRequest : List Token → List Token → SoftwareRequest → Prop where
  | mk {keyword : Token} {fuzzy : Bool} {opening : Option Token} {tokens rest : List Token}
      {request : SoftwareRequest} (compares : Compares keyword fuzzy)
      (opens : ∀ token ∈ opening, token.kind = .openParen)
      (requested : IsRequested fuzzy opening.isSome tokens rest request) :
      IsRequest (keyword :: (opening.toList ++ tokens)) rest request

theorem IsVersions.append {tokens others : List Token} {versions more : List Constraint}
    (are : IsVersions tokens versions) (later : IsVersions others more) :
    IsVersions (tokens ++ others) (versions ++ more) := by
  induction are with
  | nil => exact later
  | cons relates isText _ induction => exact .cons relates isText induction

/-- A further pair makes a further demand. -/
theorem IsEntry.withVersion {tokens : List Token} {software : Software} {operator version : Token}
    {relation : Relation} (entry : IsEntry tokens software)
    (relates : Keyword.relation? operator.value = some relation)
    (isText : version.isText = true) :
    IsEntry (tokens ++ [operator, version]) (software.withVersion relation version.value) := by
  obtain ⟨isName, versions⟩ := entry
  exact .mk isName (versions.append (.cons relates isText .nil))

theorem isText_of_isListReference {token : Token} (isReference : isListReference token = true) :
    token.isText = true := by
  have isWord : token.kind = .ident := by
    simp only [isListReference, Bool.and_eq_true, beq_iff_eq] at isReference
    exact isReference.1
  simp [Token.isText, TokenKind.isText, isWord]

/-- Entries start with a name. -/
theorem IsEntries.exists_name {tokens : List Token} {entries : List Software}
    (are : IsEntries tokens entries) :
    ∃ name others, tokens = name :: others ∧ name.isText = true := by
  cases are with
  | single entry =>
      obtain ⟨isText, -⟩ := entry
      exact ⟨_, _, rfl, isText⟩
  | cons entry separated areCommas later =>
      obtain ⟨isText, -⟩ := entry
      exact ⟨_, _, rfl, isText⟩

/-! ## What is read is in the grammar -/

/-- The tokens go on with these entries.  Where an entry is under way, the tokens that it started
with belong to the first of them; otherwise there may be commas in front. -/
def Continues : Option Software → List Token → List Software → Prop
  | none, tokens, entries => ∃ commas entered, tokens = commas ++ entered ∧
      (∀ token ∈ commas, token.kind = .comma) ∧ IsEntries entered entries
  | some current, tokens, entries => ∀ started, IsEntry started current →
      IsEntries (started ++ tokens) entries

/-- The tokens that are taken go on with the entries that are returned. -/
theorem exists_continues_of_readEntries {ending : Ending} {current? : Option Software}
    {tokens : List Token} {reading : Reading (List Software)}
    (read : readEntries ending current? tokens = .ok reading) :
    ∃ taken, tokens = taken ++ reading.rest ∧
      (∀ token ∈ reading.rest.head?, token.kind.endsList = true) ∧
      Continues current? taken reading.value := by
  fun_induction readEntries ending current? tokens generalizing reading with
  | case1 => cases read
  | case2 current =>
      obtain rfl := eq_of_settle_map read
      exact ⟨[], rfl, by simp, fun started entry => by simpa using IsEntries.single entry⟩
  | case3 token rest isComma induction =>
      obtain ⟨_, rfl, stopped, commas, entered, rfl, areCommas, entries⟩ := induction read
      exact ⟨token :: (commas ++ entered), rfl, stopped, token :: commas, entered, rfl,
        List.forall_mem_cons.mpr ⟨isComma, areCommas⟩, entries⟩
  | case4 token rest notComma isText induction =>
      obtain ⟨taken, rfl, stopped, continued⟩ := induction read
      exact ⟨token :: taken, rfl, stopped, [], token :: taken, rfl, by simp,
        continued [token] (.mk isText .nil)⟩
  | case5 => cases read
  | case6 token rest current ends =>
      cases read
      exact ⟨[], rfl, by simpa using ends, fun started entry => by
        simpa using IsEntries.single entry⟩
  | case7 token rest current goesOn isComma induction =>
      obtain ⟨inner, readInner, rfl⟩ := exists_of_map_ok read
      obtain ⟨_, rfl, stopped, commas, entered, rfl, areCommas, entries⟩ := induction readInner
      refine ⟨token :: (commas ++ entered), rfl, stopped, fun started entry => ?_⟩
      exact .cons entry (List.cons_ne_nil token commas)
        (List.forall_mem_cons.mpr ⟨isComma, areCommas⟩) entries
  | case8 => cases read
  | case9 => cases read
  | case10 token current goesOn notComma version rest constraint made induction =>
      obtain ⟨isText, relates, isVersion⟩ := demand_of_readConstraint made
      obtain ⟨taken, rfl, stopped, continued⟩ := induction read
      refine ⟨token :: version :: taken, rfl, stopped, fun started entry => ?_⟩
      rw [isVersion] at continued
      simpa using continued _ (entry.withVersion relates isText)

/-- Entries that start with a text have no commas in front. -/
theorem exists_entries_of_text {ending : Ending} {name : Token} {rest : List Token}
    {reading : Reading (List Software)} (isText : name.isText = true)
    (read : readEntries ending none (name :: rest) = .ok reading) :
    ∃ others, rest = others ++ reading.rest ∧
      (∀ token ∈ reading.rest.head?, token.kind.endsList = true) ∧
      IsEntries (name :: others) reading.value := by
  obtain ⟨_, split, stopped, commas, entered, rfl, areCommas, entries⟩ :=
    exists_continues_of_readEntries read
  cases commas with
  | nil =>
      obtain ⟨first, others, rfl, -⟩ := entries.exists_name
      obtain ⟨rfl, rfl⟩ := List.cons.inj split
      exact ⟨others, rfl, stopped, entries⟩
  | cons comma commas =>
      obtain ⟨rfl, -⟩ := List.cons.inj split
      have isComma := areCommas name List.mem_cons_self
      simp [Token.isText, TokenKind.isText, isComma] at isText

/-- A closing parenthesis is taken if it comes next, and comes next where it is required. -/
theorem exists_closing_of_readClosing {ending : Ending} {required : Bool} {tokens : List Token}
    {reading : Reading Unit} (closed : readClosing ending required tokens = .ok reading) :
    ∃ closing : Option Token, tokens = closing.toList ++ reading.rest ∧
      (∀ token ∈ closing, token.kind = .closeParen) ∧
      (required = true → closing.isSome = true) ∧
      (closing = none → ∀ token ∈ reading.rest.head?, token.kind ≠ .closeParen) := by
  rcases readClosing_cases closed with ⟨token, rest, rfl, closes, rfl⟩ |
    ⟨notRequired, notClosing, rfl⟩
  · exact ⟨some token, rfl, by simpa using closes, fun _ => rfl, by simp⟩
  · exact ⟨none, rfl, by simp, by simp [notRequired], fun _ => notClosing⟩

theorem isRequested_of_readRequested {ending : Ending} {fuzzy opened : Bool} {tokens : List Token}
    {reading : Reading SoftwareRequest}
    (read : readRequested ending fuzzy opened tokens = .ok reading) :
    IsRequested fuzzy opened tokens reading.rest reading.value := by
  obtain ⟨token, rest, rfl, isText, referred | listed⟩ := exists_of_readRequested read
  · obtain ⟨isReference, inner, closed, rfl⟩ := referred
    obtain ⟨closing, rfl, closes, required, left⟩ := exists_closing_of_readClosing closed
    exact .reference isReference closes required left
  · obtain ⟨noReference, entries, inner, listed, closed, rfl⟩ := listed
    obtain ⟨others, rfl, stopped, isEntries⟩ := exists_entries_of_text isText listed
    obtain ⟨closing, split, closes, required, left⟩ := exists_closing_of_readClosing closed
    rw [split]
    refine .entries isEntries noReference closes required fun unclosed token isFirst => ?_
    have ends : token.kind.endsList = true := stopped token (by rw [split, unclosed]; exact isFirst)
    exact (TokenKind.endsList_iff.mp ends).resolve_right (left unclosed token isFirst)

/-! ## What is in the grammar is read -/

/-- No separator among the tokens names a relation.  A reader looks for separators first and the
grammar does not, so the two part ways without this. -/
def MuteSeparators (tokens : List Token) : Prop :=
  ∀ token ∈ tokens, token.isSeparator = true → Keyword.relation? token.value = none

section Accepted

variable {ending : Ending}

/-- The pairs behind the name of an entry add their demands to it. -/
theorem readEntries_versions {tokens : List Token} {versions : List Constraint}
    (are : IsVersions tokens versions) (mute : MuteSeparators tokens) (current : Software)
    (more : List Token) :
    readEntries ending (some current) (tokens ++ more) =
      readEntries ending (some { current with versions := current.versions ++ versions }) more := by
  induction are generalizing current with
  | nil => simp
  | @cons operator version relation tokens versions relates isText later induction =>
      obtain ⟨muteOperator, muteLater⟩ := List.forall_mem_cons.mp mute
      have notSeparator : operator.isSeparator ≠ true := by
        intro separates
        rw [muteOperator separates] at relates
        cases relates
      have goesOn : ¬operator.kind.endsList = true := by
        intro ends
        apply notSeparator
        rcases TokenKind.endsList_iff.mp ends with kind | kind <;>
          simp [Token.isSeparator, TokenKind.isSeparator, kind]
      have notComma : operator.kind ≠ .comma := by
        intro isComma
        exact notSeparator (by simp [Token.isSeparator, TokenKind.isSeparator, isComma])
      have made : ∀ unlexed, readConstraint operator version unlexed =
          .ok { relation, version := version.value } := by
        intro unlexed
        rw [readConstraint, if_pos isText, relates]
      rw [List.cons_append, List.cons_append, readEntries_some_cons, if_neg goesOn,
        if_neg notComma]
      simp only [made]
      rw [induction (List.forall_mem_cons.mp muteLater).2]
      simp [Software.withVersion]

theorem readEntries_entry {tokens : List Token} {software : Software}
    (entry : IsEntry tokens software) (mute : MuteSeparators tokens) (more : List Token) :
    readEntries ending none (tokens ++ more) = readEntries ending (some software) more := by
  obtain ⟨isText, versions⟩ := entry
  have notComma : ∀ token : Token, token.isText = true → token.kind ≠ .comma := by
    intro token isText isComma
    simp [Token.isText, TokenKind.isText, isComma] at isText
  have muteVersions := (List.forall_mem_cons.mp mute).2
  rw [List.cons_append, readEntries_none_cons, if_neg (notComma _ isText), if_pos isText,
    readEntries_versions versions muteVersions]
  rfl

theorem readEntries_commas {commas : List Token} (areCommas : ∀ token ∈ commas, token.kind = .comma)
    (more : List Token) :
    readEntries ending none (commas ++ more) = readEntries ending none more := by
  induction commas with
  | nil => rfl
  | cons comma commas induction =>
      obtain ⟨isComma, others⟩ := List.forall_mem_cons.mp areCommas
      rw [List.cons_append, readEntries_none_cons, if_pos isComma, induction others]

theorem readEntries_entries {tokens rest : List Token} {entries : List Software}
    (are : IsEntries tokens entries) (mute : MuteSeparators tokens)
    (halts : Halts TokenKind.endsList ending rest) :
    readEntries ending none (tokens ++ rest) =
      .ok { value := entries, lookedAhead := true, rest } := by
  induction are with
  | single entry =>
      rw [readEntries_entry entry mute, readEntries_halts _ halts]
  | @cons tokens commas others software entries entry separated areCommas later induction =>
      obtain ⟨muteEntry, muteOthers⟩ := List.forall_mem_append.mp mute
      obtain ⟨-, muteLater⟩ := List.forall_mem_append.mp muteOthers
      obtain ⟨comma, commas, rfl⟩ := List.exists_cons_of_ne_nil separated
      obtain ⟨isComma, moreCommas⟩ := List.forall_mem_cons.mp areCommas
      have goesOn : ¬comma.kind.endsList = true := by simp [TokenKind.endsList, isComma]
      rw [List.append_assoc, readEntries_entry entry muteEntry, List.append_assoc,
        List.cons_append, readEntries_some_cons, if_neg goesOn, if_pos isComma,
        readEntries_commas moreCommas, induction muteLater]
      rfl

/-- A closing parenthesis that comes next is taken, and without one the tokens are left. -/
theorem exists_readClosing_of_closing (whole : ending.fault = none) {required : Bool}
    {closing : Option Token} {rest : List Token}
    (closes : ∀ token ∈ closing, token.kind = .closeParen)
    (needed : required = true → closing.isSome = true)
    (left : closing = none → ∀ token ∈ rest.head?, token.kind ≠ .closeParen) :
    ∃ lookedAhead, readClosing ending required (closing.toList ++ rest) =
      .ok { value := (), lookedAhead, rest } := by
  cases closing with
  | some token => exact ⟨false, readClosing_closeParen (closes token rfl) ending required rest⟩
  | none =>
      have notRequired : required = false := by simpa using needed
      refine ⟨true, ?_⟩
      cases rest with
      | nil => simp [readClosing, notRequired, settle_of_fault whole, Except.map]
      | cons token rest => simp [readClosing, notRequired, left rfl token rfl]

theorem exists_readRequested_of_isRequested (whole : ending.fault = none) {fuzzy opened : Bool}
    {tokens rest : List Token} {request : SoftwareRequest} (mute : MuteSeparators tokens)
    (requested : IsRequested fuzzy opened tokens rest request) :
    ∃ lookedAhead, readRequested ending fuzzy opened tokens =
      .ok { value := request, lookedAhead, rest } := by
  cases requested with
  | @reference reference closing _ isReference closes required left =>
      obtain ⟨lookedAhead, closed⟩ := exists_readClosing_of_closing whole closes required left
      have isText := isText_of_isListReference isReference
      refine ⟨lookedAhead, ?_⟩
      rw [readRequested, if_pos isText, if_pos isReference, closed]
      rfl
  | @entries name others entries closing _ entered noReference closes required left =>
      obtain ⟨_, _, same, isText⟩ := entered.exists_name
      obtain ⟨rfl, -⟩ := List.cons.inj same
      have muteEntries : MuteSeparators (name :: others) := by
        intro token isPart
        exact mute token (by simpa using (List.mem_cons.mp isPart).imp_right .inl)
      have halts : Halts TokenKind.endsList ending (closing.toList ++ rest) := by
        cases closing with
        | some token => exact TokenKind.endsList_iff.mpr (.inr (closes token rfl))
        | none =>
            cases rest with
            | nil => exact whole
            | cons token rest => exact TokenKind.endsList_iff.mpr (.inl (left rfl token rfl))
      have notClosing : closing = none → ∀ token ∈ rest.head?, token.kind ≠ .closeParen := by
        intro unclosed token isFirst
        simp [left unclosed token isFirst]
      obtain ⟨lookedAhead, closed⟩ :=
        exists_readClosing_of_closing whole closes required notClosing
      have listed := readEntries_entries entered muteEntries halts
      exact ⟨lookedAhead, readRequested_of_entries fuzzy isText noReference listed closed⟩

end Accepted

/-! ## Clauses -/

/-- The keywords that compare with a text are those that ask for software. -/
theorem compares_iff {keyword : Token} {fuzzy : Bool} :
    Compares keyword fuzzy ↔ (keyword.isText || keyword.kind = .operator) = true ∧
      ∃ comparison, Keyword.comparison? keyword.value = some comparison ∧
        (comparison == .matching) = fuzzy := by
  constructor
  · rintro ⟨isName, spelled, fuzzy_iff⟩
    refine ⟨by simpa using isName, ?_⟩
    have distinct : (Keyword.Comparison.equal == Keyword.Comparison.matching) = false := rfl
    simp only [List.mem_cons, List.not_mem_nil, or_false] at spelled
    rcases spelled with spelled | spelled | spelled | spelled | spelled | spelled | spelled <;>
      simpa [Keyword.comparison?, spelled, distinct, eq_comm] using fuzzy_iff
  · rintro ⟨isName, comparison, compares, rfl⟩
    have isName : keyword.isText = true ∨ keyword.kind = .operator := by simpa using isName
    unfold Keyword.comparison? at compares
    split at compares
    all_goals cases compares
    all_goals next spelled => exact ⟨isName, by simp [spelled], by simp [spelled]⟩

/-- An opening parenthesis is taken if it comes next. -/
theorem exists_opening (tokens : List Token) :
    ∃ opening : Option Token, tokens = opening.toList ++ (readOpening tokens).2 ∧
      (readOpening tokens).1 = opening.isSome ∧ ∀ token ∈ opening, token.kind = .openParen := by
  cases tokens with
  | nil => exact ⟨none, rfl, rfl, by simp⟩
  | cons token rest =>
      by_cases opens : token.kind = .openParen
      · exact ⟨some token, by simp [readOpening, opens], by simp [readOpening, opens], by
          simpa using opens⟩
      · exact ⟨none, by simp [readOpening, opens], by simp [readOpening, opens], by simp⟩

/-- What is asked for starts with a text. -/
theorem IsRequested.exists_text {fuzzy opened : Bool} {tokens rest : List Token}
    {request : SoftwareRequest} (requested : IsRequested fuzzy opened tokens rest request) :
    ∃ first others, tokens = first :: others ∧ first.isText = true := by
  cases requested with
  | reference isReference => exact ⟨_, _, rfl, isText_of_isListReference isReference⟩
  | entries entered =>
      obtain ⟨_, _, same, isText⟩ := entered.exists_name
      obtain ⟨rfl, -⟩ := List.cons.inj same
      exact ⟨_, _, rfl, isText⟩

theorem readOpening_requested {fuzzy : Bool} {opening : Option Token} {tokens rest : List Token}
    {request : SoftwareRequest} (opens : ∀ token ∈ opening, token.kind = .openParen)
    (requested : IsRequested fuzzy opening.isSome tokens rest request) :
    readOpening (opening.toList ++ tokens) = (opening.isSome, tokens) := by
  cases opening with
  | some token => simp [readOpening, opens token rfl]
  | none =>
      obtain ⟨first, others, rfl, isText⟩ := requested.exists_text
      exact readOpening_of_text isText others

/-- Behind the software word exactly the requests of the grammar are read. -/
theorem readSoftware_iff {ending : Ending} (whole : ending.fault = none) {tokens rest : List Token}
    (mute : MuteSeparators tokens) {clause : Clause} :
    (∃ lookedAhead, readSoftware ending tokens = .ok { value := clause, lookedAhead, rest }) ↔
      ∃ request, clause = .software request ∧ IsRequest tokens rest request := by
  constructor
  · rintro ⟨lookedAhead, read⟩
    obtain ⟨keyword, behind, comparison, requested, rfl, isName, compares, readInner, same⟩ :=
      exists_of_readSoftware read
    obtain ⟨isClause, -, rfl⟩ := Reading.mk.inj same
    obtain ⟨opening, split, opened, opens⟩ := exists_opening behind
    have isRequested := isRequested_of_readRequested readInner
    rw [opened] at isRequested
    rw [split]
    exact ⟨requested.value, isClause,
      .mk (compares_iff.mpr ⟨isName, comparison, compares, rfl⟩) opens isRequested⟩
  · rintro ⟨request, rfl, compares, opens, requested⟩
    obtain ⟨isName, comparison, asked, rfl⟩ := compares_iff.mp compares
    have muteBehind := List.forall_mem_append.mp (List.forall_mem_cons.mp mute).2
    obtain ⟨lookedAhead, readInner⟩ :=
      exists_readRequested_of_isRequested whole muteBehind.2 requested
    refine ⟨lookedAhead, ?_⟩
    rw [readSoftware_of_comparison isName asked, readOpening_requested opens requested, readInner]
    rfl

/-- The marks that separate name no relation. -/
theorem relation?_mark {c : Char} (isMark : c ∈ ['|', ')', ',']) :
    Keyword.relation? (String.ofList [c]) = none := by
  simp only [List.mem_cons, List.not_mem_nil, or_false] at isMark
  rcases isMark with rfl | rfl | rfl <;> decide +kernel

/-- A separator carries its own character, which names no relation. -/
theorem relation?_of_scan {tolerant : Bool} {offset : Nat} {text : List Char} {token : Token}
    (made : (Token.scan tolerant offset text).outcome = .ok (some token))
    (separates : token.isSeparator = true) : Keyword.relation? token.value = none := by
  induction text generalizing offset with
  | nil => cases made
  | cons c rest induction =>
      unfold Token.scan at made
      split at made
      · exact induction made
      · unfold Scan.begin at made
        split at made
        · cases made
          exact relation?_mark (by decide)
        · cases made
          cases separates
        · cases made
          exact relation?_mark (by decide)
        · cases made
          exact relation?_mark (by decide)
        · simp only [Scan.quoted] at made
          split at made <;> cases made
          cases separates
        · split at made
          · unfold Scan.comparison at made
            split at made
            · split at made <;> cases made <;> cases separates
            · cases made
              cases separates
          · split at made <;> cases made
            cases separates

/-- The tokens of a query are scanned one by one, and what each separator carries is its mark. -/
theorem muteSeparators_tokens (settings : Settings) (query : String) :
    MuteSeparators (tokens settings query).tokens := by
  rw [tokens, TokenStream.read]
  fun_induction TokenStream.readFrom settings.tolerant 0 query.toList with
  | case1 offset text token made induction =>
      exact List.forall_mem_cons.mpr ⟨fun separates => relation?_of_scan made separates, induction⟩
  | case2 => exact List.forall_mem_nil _
  | case3 => exact List.forall_mem_nil _

/-- Behind the software word a clause is read exactly where a request stands, and it asks for what
the request does. -/
theorem readClause_software_iff {settings : Settings} {query : String} {before behind : List Token}
    {word : Token}
    (stream : tokens settings query = { tokens := before ++ word :: behind, fault := none })
    (isWord : word.kind = .ident) (isSoftware : word.value = "software") (value : Option Clause)
    (rest : List Token) :
    (∃ lookedAhead, readClause settings { fault := none, length := query.length } word behind =
        .ok { value, lookedAhead, rest }) ↔
      ∃ request, value = some (.software request) ∧ IsRequest behind rest request := by
  -- Tokens made from a text have no separators that name a relation; others might.
  have mute : MuteSeparators behind := by
    have whole := muteSeparators_tokens settings query
    rw [stream] at whole
    exact (List.forall_mem_cons.mp (List.forall_mem_append.mp whole).2).2
  have isClause : readClause settings { fault := none, length := query.length } word behind =
      (readSoftware { fault := none, length := query.length } behind).map (Reading.map some) := by
    rw [← readWord_software isSoftware settings]
    simp [readClause, isWord]
  have whole : (Ending.mk none query.length).fault = none := rfl
  rw [isClause]
  constructor
  · rintro ⟨lookedAhead, read⟩
    obtain ⟨inner, readInner, same⟩ := exists_of_map_ok read
    obtain ⟨rfl, rfl, rfl⟩ := Reading.mk.inj same
    obtain ⟨request, isRequest, requests⟩ :=
      (readSoftware_iff whole mute).mp ⟨inner.lookedAhead, readInner⟩
    exact ⟨request, congrArg some isRequest, requests⟩
  · rintro ⟨request, rfl, requests⟩
    obtain ⟨lookedAhead, read⟩ := (readSoftware_iff whole mute).mpr ⟨request, rfl, requests⟩
    exact ⟨lookedAhead, by rw [read]; rfl⟩

/-- The name of a list does not make a reference of an entry that is not the first. -/
theorem readClause_software_iff_listed :
    let settings := Settings.ofFields []
    let query := "software ~ (b >= 1, @c) | group"
    let word : Token := { kind := .ident, value := "software", pos := 0 }
    let rest : List Token :=
      [{ kind := .pipe, value := "|", pos := 24 }, { kind := .ident, value := "group", pos := 26 }]
    let behind : List Token :=
      [{ kind := .operator, value := "~", pos := 9 },
        { kind := .openParen, value := "(", pos := 11 },
        { kind := .ident, value := "b", pos := 12 },
        { kind := .operator, value := ">=", pos := 14 },
        { kind := .ident, value := "1", pos := 17 }, { kind := .comma, value := ",", pos := 18 },
        { kind := .ident, value := "@c", pos := 20 },
        { kind := .closeParen, value := ")", pos := 22 }] ++ rest
    let entries : List Software :=
      [{ name := "b", versions := [{ relation := .gte, version := "1" }] },
        { name := "@c", versions := [] }]
    let value : Option Clause := some (.software { entries, listReference := none, fuzzy := true })
    tokens settings query = { tokens := [] ++ word :: behind, fault := none } ∧
      word.kind = .ident ∧ word.value = "software" ∧
      ∃ request, value = some (.software request) ∧ IsRequest behind rest request := by
  intro settings query word rest behind entries value
  have stream : tokens settings query = { tokens := [] ++ word :: behind, fault := none } := by
    decide +kernel
  have read : readClause settings { fault := none, length := query.length } word behind =
      .ok { value, lookedAhead := false, rest } := by
    decide +kernel
  exact ⟨stream, rfl, rfl, (readClause_software_iff stream rfl rfl value rest).mp ⟨false, read⟩⟩

end Query
end PipeQuery

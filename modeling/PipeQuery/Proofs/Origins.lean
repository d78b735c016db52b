import PipeQuery.Proofs.Separation

/-!
# Where the texts and bounds of clauses come from

Every text of a clause is the value of a token that the clause was read from, and every bound is the
number that a word among these tokens stands for.  The tokens of the texts come in the order of the
texts, those of the bounds come behind the name of the field, and no token serves twice
(`Query.parse_origins`).  Only the field of a quoted text comes from the settings.
-/

namespace PipeQuery

/-- The texts of an entry: its name and the versions it is compared with. -/
def Software.texts (software : Software) : List String :=
  software.name :: software.versions.map Constraint.version

/-- The texts of a request: the name of a list or those of the entries. -/
def SoftwareRequest.texts (request : SoftwareRequest) : List String :=
  request.listReference.toList ++ request.entries.flatMap Software.texts

namespace Clause

/-- The texts of a clause in order, the field that it is about first. -/
def texts : Clause → List String
  | software request => request.texts
  | oneOf field values _ => field :: values
  | range field _ => [field]
  | matching field text | exact field text => [field, text]
  | filter name => [name]
  | group field => [field]

/-- The bounds of a clause. -/
def bounds : Clause → Bounds
  | range _ bounds => bounds
  | _ => .empty

end Clause

/-- Every bound is the number that a word stands for, one of the operands for its relation. -/
def Bounds.From (bounds : Bounds) (operands : List (Relation × Token)) : Prop :=
  ∀ relation number, bounds.get? relation = some number →
    ∃ operand, (relation, operand) ∈ operands ∧ operand.kind = .ident ∧
      Binary64.ofWord? operand.value = some number

namespace Bounds

theorem empty_from (operands : List (Relation × Token)) : empty.From operands := by
  intro relation number given
  rw [get?_empty] at given
  cases given

/-- A further operand gives the bound for its relation. -/
theorem From.set {bounds : Bounds} {operands : List (Relation × Token)} {operand : Token}
    {number : Binary64} (known : bounds.From operands) (relation : Relation)
    (isWord : operand.kind = .ident) (isNumber : Binary64.ofWord? operand.value = some number) :
    (bounds.set relation number).From (operands ++ [(relation, operand)]) := by
  intro asked number' given
  rw [get?_set] at given
  split at given
  · next same =>
      cases given
      exact ⟨operand, by simp [same], isWord, isNumber⟩
  · obtain ⟨earlier, isOperand, found⟩ := known asked number' given
    exact ⟨earlier, List.mem_append_left _ isOperand, found⟩

end Bounds

namespace Query

/-- Among the tokens taken stand in order the chosen ones, whose values are the texts, and behind
them the operands that the bounds are read from. -/
structure Supplies (taken : List Token) (texts : List String) (bounds : Bounds)
    (chosen : List Token) (operands : List (Relation × Token)) : Prop where
  /-- The tokens stand in order. -/
  inOrder : (chosen ++ operands.map Prod.snd).Sublist taken
  /-- The texts are the values of the chosen ones. -/
  values : chosen.map Token.value = texts
  /-- The bounds are the numbers of the operands. -/
  numbers : bounds.From operands

/-- The texts and bounds come from the tokens in front of `rest`. -/
def Yields (tokens rest : List Token) (texts : List String) (bounds : Bounds) : Prop :=
  ∃ taken chosen operands, tokens = taken ++ rest ∧ Supplies taken texts bounds chosen operands

namespace Yields

variable {tokens rest : List Token} {texts : List String} {bounds : Bounds}

/-- Nothing comes from any tokens. -/
theorem nothing (isEnd : rest <:+ tokens) : Yields tokens rest [] .empty := by
  obtain ⟨taken, split⟩ := isEnd
  exact ⟨taken, [], [], split.symm, List.nil_sublist taken, rfl, Bounds.empty_from []⟩

/-- Tokens in front may be passed over. -/
theorem behind {longer : List Token} (yields : Yields tokens rest texts bounds)
    (isEnd : tokens <:+ longer) : Yields longer rest texts bounds := by
  obtain ⟨taken, chosen, operands, rfl, inOrder, values, numbers⟩ := yields
  obtain ⟨front, split⟩ := isEnd
  rw [← List.append_assoc] at split
  have later := List.sublist_append_right front taken
  exact ⟨front ++ taken, chosen, operands, split.symm, inOrder.trans later, values, numbers⟩

theorem skip (yields : Yields tokens rest texts bounds) (token : Token) :
    Yields (token :: tokens) rest texts bounds :=
  yields.behind (List.suffix_cons token tokens)

/-- Tokens at the end may be passed over. -/
theorem before {shorter : List Token} (yields : Yields tokens rest texts bounds)
    (isEnd : shorter <:+ rest) : Yields tokens shorter texts bounds := by
  obtain ⟨taken, chosen, operands, rfl, inOrder, values, numbers⟩ := yields
  obtain ⟨back, rfl⟩ := isEnd
  rw [← List.append_assoc]
  have earlier := List.sublist_append_left taken back
  exact ⟨taken ++ back, chosen, operands, rfl, inOrder.trans earlier, values, numbers⟩

/-- A token in front may give the first text. -/
theorem cons (yields : Yields tokens rest texts bounds) (token : Token) :
    Yields (token :: tokens) rest (token.value :: texts) bounds := by
  obtain ⟨taken, chosen, operands, rfl, inOrder, values, numbers⟩ := yields
  exact ⟨token :: taken, token :: chosen, operands, rfl, inOrder.cons_cons token,
    congrArg (token.value :: ·) values, numbers⟩

theorem exists_supplies {taken : List Token} (yields : Yields (taken ++ rest) rest texts bounds) :
    ∃ chosen operands, Supplies taken texts bounds chosen operands := by
  obtain ⟨taken', chosen, operands, split, supplied⟩ := yields
  obtain rfl := List.append_cancel_right split
  exact ⟨chosen, operands, supplied⟩

end Yields

/-! ## Readers -/

/-- The values of a list are texts in it. -/
theorem ValueList.yields_read (afterComma : Bool) (tokens : List Token) :
    Yields tokens (read afterComma tokens).rest (read afterComma tokens).values .empty := by
  induction tokens generalizing afterComma with
  | nil => exact .nothing (List.suffix_refl [])
  | cons token rest induction =>
      by_cases ends : token.kind.endsList = true ∧ afterComma = false
      · rw [read_of_ends rest ends]
        exact .nothing (List.suffix_refl _)
      · have yields := induction (token.kind == .comma)
        rw [read_of_goesOn rest ends, extend_rest, extend]
        split
        · exact yields.skip token
        · exact yields.cons token
        · exact yields.cons token
        all_goals exact yields.skip token

/-- A chain adds operands to those that its bounds so far come from. -/
theorem exists_operands_of_readChain {ending : Ending} {field : String} {bounds : Bounds}
    {tokens : List Token} {reading : Reading Bounds} {given : List (Relation × Token)}
    (known : bounds.From given) (read : readChain ending field bounds tokens = .ok reading) :
    ∃ taken operands, tokens = taken ++ reading.rest ∧
      (operands.map Prod.snd).Sublist taken ∧ reading.value.From (given ++ operands) := by
  fun_induction readChain ending field bounds tokens generalizing given with
  | case1 bounds =>
      obtain rfl := eq_of_settle_map read
      exact ⟨[], [], rfl, .slnil, by rwa [List.append_nil]⟩
  | case2 bounds token rest isPipe =>
      cases read
      exact ⟨[], [], rfl, .slnil, by rwa [List.append_nil]⟩
  | case3 bounds token rest notPipe noRelation induction =>
      obtain ⟨taken, operands, split, inOrder, numbers⟩ := induction known read
      exact ⟨token :: taken, operands, congrArg (token :: ·) split, inOrder.cons token, numbers⟩
  | case4 => cases read
  | case5 => cases read
  | case6 bounds token notPipe relation isRelation operand rest value bound induction =>
      obtain ⟨isWord, isNumber⟩ := word_of_readBound bound
      -- The operand is given to the rest of the chain, which may put another in its place.
      obtain ⟨taken, operands, split, inOrder, numbers⟩ :=
        induction (known.set relation isWord isNumber) read
      rw [List.append_assoc] at numbers
      exact ⟨token :: operand :: taken, (relation, operand) :: operands,
        congrArg (token :: operand :: ·) split, (inOrder.cons_cons operand).cons token, numbers⟩

section Fields

variable {ending : Ending} {field : String} {tokens : List Token} {reading : Reading Clause}

/-- A clause about a field has the field for its first text and all others from the tokens that it
was read from. -/
def YieldsBehind (field : String) (tokens : List Token) (reading : Reading Clause) : Prop :=
  ∃ texts, reading.value.texts = field :: texts ∧
    Yields tokens reading.rest texts reading.value.bounds

theorem yields_of_readRange {relation : Relation}
    (read : readRange ending field relation tokens = .ok reading) :
    YieldsBehind field tokens reading := by
  obtain ⟨operand, rest, value, chain, rfl, bound, chained, rfl⟩ := exists_of_readRange read
  obtain ⟨isWord, isNumber⟩ := word_of_readBound bound
  have first := (Bounds.empty_from []).set relation isWord isNumber
  obtain ⟨taken, operands, split, inOrder, numbers⟩ := exists_operands_of_readChain first chained
  exact ⟨[], rfl, operand :: taken, [], (relation, operand) :: operands,
    congrArg (operand :: ·) split, inOrder.cons_cons operand, rfl, numbers⟩

theorem yields_of_readOneOf {negated : Bool}
    (read : readOneOf ending field negated tokens = .ok reading) :
    YieldsBehind field tokens reading := by
  obtain ⟨closing, closed, rfl⟩ := exists_of_map_ok read
  exact ⟨_, rfl, (ValueList.yields_read false tokens).before (suffix_of_readClosing closed)⟩

theorem yields_of_readText {comparison : Keyword.Comparison}
    (read : readText ending field comparison tokens = .ok reading) :
    YieldsBehind field tokens reading := by
  cases tokens with
  | nil => cases read
  | cons token rest =>
      simp only [readText] at read
      split at read
      · cases read
        have yields := (Yields.nothing (List.suffix_refl rest)).cons token
        cases comparison <;> exact ⟨[token.value], rfl, yields⟩
      · cases read

theorem yields_of_readTest {negated : Bool}
    (read : readTest ending field negated tokens = .ok reading) :
    YieldsBehind field tokens reading := by
  obtain ⟨keyword, rest, test, rfl, -, -, inner⟩ := exists_of_readTest read
  have tested : YieldsBehind field rest reading := by
    cases test with
    | oneOf => exact yields_of_readOneOf inner
    | text comparison => exact yields_of_readText inner
    | bounds relation => exact yields_of_readRange inner
  obtain ⟨texts, isClause, yields⟩ := tested
  exact ⟨texts, isClause, yields.skip keyword⟩

end Fields

/-- The texts of the entry at hand come first; the tokens taken give all others. -/
theorem exists_yields_of_readEntries {ending : Ending} {current? : Option Software}
    {tokens : List Token} {reading : Reading (List Software)}
    (read : readEntries ending current? tokens = .ok reading) :
    ∃ texts, reading.value.flatMap Software.texts =
        current?.toList.flatMap Software.texts ++ texts ∧
      Yields tokens reading.rest texts .empty := by
  fun_induction readEntries ending current? tokens generalizing reading with
  | case1 => cases read
  | case2 current =>
      obtain rfl := eq_of_settle_map read
      exact ⟨[], (List.append_nil _).symm, .nothing (List.suffix_refl _)⟩
  | case3 token rest isComma induction =>
      obtain ⟨texts, listed, yields⟩ := induction read
      exact ⟨texts, listed, yields.skip token⟩
  | case4 token rest notComma isText induction =>
      obtain ⟨texts, listed, yields⟩ := induction read
      exact ⟨token.value :: texts, listed, yields.cons token⟩
  | case5 => cases read
  | case6 token rest current ends =>
      cases read
      exact ⟨[], (List.append_nil _).symm, .nothing (List.suffix_refl _)⟩
  | case7 token rest current goesOn isComma induction =>
      obtain ⟨inner, readInner, rfl⟩ := exists_of_map_ok read
      obtain ⟨texts, listed, yields⟩ := induction readInner
      refine ⟨texts, ?_, yields.skip token⟩
      simpa [Reading.map] using listed
  | case8 => cases read
  | case9 => cases read
  | case10 token current goesOn notComma version rest constraint made induction =>
      obtain ⟨texts, listed, yields⟩ := induction read
      obtain ⟨-, -, isVersion⟩ := demand_of_readConstraint made
      refine ⟨version.value :: texts, ?_, (yields.cons version).skip token⟩
      simpa [Software.texts, Software.withVersion, isVersion] using listed

theorem yields_of_readRequested {ending : Ending} {fuzzy opened : Bool} {tokens : List Token}
    {reading : Reading SoftwareRequest}
    (read : readRequested ending fuzzy opened tokens = .ok reading) :
    Yields tokens reading.rest reading.value.texts .empty := by
  obtain ⟨token, rest, rfl, -, referred | listed⟩ := exists_of_readRequested read
  · obtain ⟨-, closing, closed, rfl⟩ := referred
    exact (Yields.nothing (suffix_of_readClosing closed)).cons token
  · obtain ⟨-, entries, closing, listed, closed, rfl⟩ := listed
    obtain ⟨texts, isList, yields⟩ := exists_yields_of_readEntries listed
    have named : SoftwareRequest.texts
        { entries := entries.value, listReference := none, fuzzy } = texts := isList
    rw [Reading.map, named]
    exact yields.before (suffix_of_readClosing closed)

theorem yields_of_readSoftware {ending : Ending} {tokens : List Token} {reading : Reading Clause}
    (read : readSoftware ending tokens = .ok reading) :
    Yields tokens reading.rest reading.value.texts reading.value.bounds := by
  obtain ⟨keyword, rest, comparison, requested, rfl, -, -, inner, rfl⟩ :=
    exists_of_readSoftware read
  exact ((yields_of_readRequested inner).behind (suffix_readOpening rest)).skip keyword

theorem yields_of_readOperand {ending : Ending} {clause : String → Clause} {tokens : List Token}
    {reading : Reading (Option Clause)} {found : Clause}
    (single : ∀ text, (clause text).texts = [text] ∧ (clause text).bounds = .empty)
    (read : readOperand ending clause tokens = .ok reading)
    (isClause : reading.value = some found) :
    Yields tokens reading.rest found.texts found.bounds := by
  cases tokens with
  | nil =>
      obtain rfl := eq_of_settle_map read
      cases isClause
  | cons token rest =>
      cases read
      cases isClause
      obtain ⟨isText, isEmpty⟩ := single token.value
      rw [isText, isEmpty]
      exact (Yields.nothing (List.suffix_refl rest)).cons token

/-- The word that starts a clause gives a text only when it is a field. -/
theorem yields_of_readWord {settings : Settings} {ending : Ending} {word : Token}
    {tokens : List Token} {reading : Reading (Option Clause)} {clause : Clause}
    (read : readWord settings ending word tokens = .ok reading)
    (isClause : reading.value = some clause) :
    Yields (word :: tokens) reading.rest clause.texts clause.bounds := by
  rcases exists_of_readWord read with ⟨operand, isOperand, readInner⟩ | ⟨inner, readInner, rfl⟩ |
    ⟨-, -, inner, readInner, rfl⟩
  · have single : ∀ text, (operand text).texts = [text] ∧ (operand text).bounds = .empty := by
      rcases isOperand with rfl | rfl <;> exact fun text => ⟨rfl, rfl⟩
    exact (yields_of_readOperand single readInner isClause).skip word
  · cases isClause
    exact (yields_of_readSoftware readInner).skip word
  · cases isClause
    obtain ⟨texts, isField, yields⟩ := yields_of_readTest readInner
    rw [isField]
    exact (yields.behind (suffix_readNegation tokens)).cons word

/-! ## The origins of the clauses of a query -/

/-- The texts of the clause that the part contains: a quoted text stands without its field. -/
def Part.texts (part : Part) : List String :=
  match part.first.kind, part.clause with
  | .string, .matching _ text => [text]
  | _, clause => clause.texts

/-- A part and the tokens that its clause has its texts and bounds from. -/
structure Origin extends Part where
  /-- The tokens of the texts. -/
  chosen : List Token
  /-- The tokens of the bounds, each with the relation that it was read for. -/
  operands : List (Relation × Token)

namespace Origin

/-- All tokens that the clause has something from. -/
def used (origin : Origin) : List Token :=
  origin.chosen ++ origin.operands.map Prod.snd

/-- The tokens account for the texts and bounds of the clause, and a quoted text is looked for in
the full-text field. -/
structure Accounts (settings : Settings) (origin : Origin) : Prop where
  /-- The tokens stand in order in the part and give the texts and the bounds. -/
  supplied : Supplies origin.tokens origin.texts origin.clause.bounds origin.chosen origin.operands
  /-- The field of a quoted text comes from the settings. -/
  quoted : origin.first.kind = .string →
    ∃ text, origin.clause = .matching settings.fullTextField text

end Origin

/-- A part has all its texts and bounds from its own tokens. -/
theorem exists_accounts_of_readClause {settings : Settings} {ending : Ending} {first : Token}
    {others rest : List Token} {clause : Clause} {lookedAhead : Bool}
    (read : readClause settings ending first (others ++ rest) =
      .ok { value := some clause, lookedAhead, rest }) :
    ∃ chosen operands,
      Origin.Accounts settings { first, others, clause, chosen, operands } := by
  rw [readClause] at read
  split at read
  · next isWord =>
      have yields : Yields ((first :: others) ++ rest) rest _ _ := yields_of_readWord read rfl
      obtain ⟨chosen, operands, supplied⟩ := yields.exists_supplies
      have written : (Part.mk first others clause).texts = clause.texts := by
        simp [Part.texts, isWord]
      exact ⟨chosen, operands, written ▸ supplied, by simp [isWord]⟩
  · next isQuoted =>
      obtain ⟨⟩ := Option.some.inj (Reading.mk.inj (Except.ok.inj read)).1
      have yields : Yields ((first :: others) ++ rest) rest _ _ :=
        (Yields.nothing (List.suffix_append others rest)).cons first
      obtain ⟨chosen, operands, supplied⟩ := yields.exists_supplies
      have written : (Part.mk first others (.matching settings.fullTextField first.value)).texts =
          [first.value] := by
        simp [Part.texts, isQuoted]
      exact ⟨chosen, operands, written ▸ supplied, fun _ => ⟨first.value, rfl⟩⟩
  · cases read

theorem Parted.exists_origins {settings : Settings} {ending : Ending} {tokens : List Token}
    {parts : List Part} (parted : Parted settings ending tokens parts) :
    ∃ origins : List Origin, origins.map Origin.toPart = parts ∧
      (∀ origin ∈ origins, origin.Accounts settings) ∧
      (origins.flatMap Origin.used).Sublist tokens := by
  induction parted with
  | nil => exact ⟨[], rfl, by simp, .slnil⟩
  | bare => exact ⟨[], rfl, by simp, List.nil_sublist _⟩
  | @pipe token rest parts isPipe later induction =>
      obtain ⟨origins, same, accounts, inOrder⟩ := induction
      exact ⟨origins, same, accounts, inOrder.cons token⟩
  | part notPipe read apart later induction =>
      obtain ⟨origins, rfl, accounts, inOrder⟩ := induction
      obtain ⟨chosen, operands, account⟩ := exists_accounts_of_readClause read
      refine ⟨_ :: origins, rfl, List.forall_mem_cons.mpr ⟨account, accounts⟩, ?_⟩
      exact account.supplied.inOrder.append inOrder

/-- The clauses of a query that is read come from its parts, and have all their texts and bounds
from tokens of these.  Over the whole query these tokens stand in order: the texts of a clause, then
its bounds, then the texts of the next clause. -/
theorem parse_origins {settings : Settings} {query : String} {clauses : List Clause}
    (parsed : parse settings query = .ok clauses) :
    ∃ origins : List Origin, (origins.map fun origin => origin.clause) = clauses ∧
      Parted settings { fault := none, length := query.length } (tokens settings query).tokens
        (origins.map Origin.toPart) ∧
      (∀ origin ∈ origins, origin.Accounts settings) ∧
      (origins.flatMap Origin.used).Sublist (tokens settings query).tokens := by
  have outcome := outcome_of_parse parsed
  have whole : (tokens settings query).fault = none := fault_eq_none_of_outcome outcome
  rw [run, whole, String.length_toList] at outcome
  obtain ⟨parts, rfl, parted⟩ := exists_parted_of_outcome outcome
  obtain ⟨origins, rfl, accounts, inOrder⟩ := parted.exists_origins
  exact ⟨origins, by rw [List.map_map]; rfl, parted, accounts, inOrder⟩

/-- A later bound takes the place of an earlier one, and equal bounds for two relations come from
two words; the quoted text gives one text, the words `and` and `in` none. -/
theorem parse_origins_overwritten :
    let settings := Settings.ofFields ["severity"]
    let query := "\"x\" severity > 1 and > 0 lt 0 | software in (x gt 1, \"y\")"
    let clauses := [.matching settings.fullTextField "x",
      .range "severity" ((Bounds.empty.set .gt .zero).set .lt .zero),
      .software
        { entries := [(Software.named "x").withVersion .gt "1", .named "y"]
          listReference := none
          fuzzy := false }]
    parse settings query = .ok clauses ∧
      ∃ origins : List Origin, (origins.map fun origin => origin.clause) = clauses ∧
        Parted settings { fault := none, length := query.length } (tokens settings query).tokens
          (origins.map Origin.toPart) ∧
        (∀ origin ∈ origins, origin.Accounts settings) ∧
        (origins.flatMap Origin.used).Sublist (tokens settings query).tokens := by
  intro settings query clauses
  have parsed : parse settings query = .ok clauses := by
    decide +kernel
  exact ⟨parsed, parse_origins parsed⟩

end Query
end PipeQuery

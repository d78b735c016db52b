import PipeQuery.Proofs.Grammar.RangeChain
import PipeQuery.Proofs.Number.Integer
import PipeQuery.Proofs.ReadBack
import PipeQuery.Proofs.Wire
import PipeQuery.Query.Wire

/-!
# Integers pass through

An integer of at most fifty-three bits may be written in a query with a sign, needless zeros, a
fraction of zeros or an exponent; the answer holds its plain digits, and reading the answer gives
the integer again.  Every other bound keeps a point or an exponent (`Query.write_integers`).
-/

namespace PipeQuery

/-! ## Bounds one after the other -/

namespace Bounds

/-- The last bound given for a relation counts. -/
theorem get?_foldl_set (given : List (Relation × Binary64)) (bounds : Bounds)
    (relation : Relation) :
    (given.foldl (fun bounds bound => bounds.set bound.1 bound.2) bounds).get? relation =
      (given.reverse.lookup relation).or (bounds.get? relation) := by
  induction given generalizing bounds with
  | nil => rfl
  | cons bound given induction =>
      obtain ⟨other, value⟩ := bound
      rw [List.foldl_cons, induction, get?_set, List.reverse_cons, List.lookup_append,
        Option.or_assoc, List.lookup_cons, List.lookup_nil]
      by_cases same : relation = other
      · simp [same]
      · simp [same, beq_false_of_ne same]

theorem lookup_toList (bounds : Bounds) (relation : Relation) :
    bounds.toList.lookup relation = bounds.get? relation := by
  have found : ∀ relations : List Relation,
      (relations.filterMap fun other => (bounds.get? other).map (other, ·)).lookup relation =
        if relation ∈ relations then bounds.get? relation else none := by
    intro relations
    induction relations with
    | nil => rfl
    | cons other relations induction =>
        by_cases same : relation = other
        · subst same
          cases given : bounds.get? relation <;> simp [given, induction]
        · cases given : bounds.get? other <;>
            simp [same, given, induction, List.lookup_cons, beq_false_of_ne same]
  exact (found Relation.all).trans (if_pos relation.mem_all)

theorem lookup_reverse_toList (bounds : Bounds) (relation : Relation) :
    bounds.toList.reverse.lookup relation = bounds.get? relation := by
  have last := get?_foldl_set bounds.toList empty relation
  rw [foldl_set_toList, get?_empty, Option.or_none] at last
  exact last.symm

theorem addMember?_number (bounds : Bounds) (relation : Relation) (numeral : Numeral) :
    bounds.addMember? (some relation.word, .number numeral) =
      numeral.toBinary64?.map (bounds.set relation) := by
  simp only [addMember?, Option.bind_some, Relation.ofWord?_word, Json.number?]
  cases numeral.toBinary64? <;> rfl

/-- What is read for a relation is the last of its numerals. -/
theorem get?_of_foldlM_addMember? {given : List (Relation × Binary64)} {earlier decoded : Bounds}
    (read : (given.map fun bound => (some bound.1.word, Json.number (boundNumeral bound.2))).foldlM
      addMember? earlier = some decoded) (relation : Relation) :
    decoded.get? relation =
      match given.reverse.lookup relation with
      | some value => (boundNumeral value).toBinary64?
      | none => earlier.get? relation := by
  induction given generalizing earlier with
  | nil =>
      obtain rfl : earlier = decoded := Option.some.inj read
      rfl
  | cons bound given induction =>
      obtain ⟨other, value⟩ := bound
      simp only [List.map_cons, List.foldlM_cons, addMember?_number, bind,
        Option.bind_eq_some_iff, Option.map_eq_some_iff] at read
      obtain ⟨_, ⟨number, isNumber, rfl⟩, read⟩ := read
      rw [induction read, List.reverse_cons, List.lookup_append, List.lookup_cons,
        List.lookup_nil, get?_set]
      cases given.reverse.lookup relation with
      | some _ => rfl
      | none =>
          by_cases same : relation = other
          · simp [same, isNumber]
          · simp [same, beq_false_of_ne same]

/-- Each bound of a text is the number that its numeral stands for. -/
theorem get?_of_ofJson?_toJson {bounds decoded : Bounds}
    (read : ofJson? bounds.toJson = some decoded) {relation : Relation} {value : Binary64}
    (given : bounds.get? relation = some value) :
    decoded.get? relation = (boundNumeral value).toBinary64? := by
  have tree : bounds.toJson = .object (bounds.toList.map fun bound =>
      (some bound.1.word, .number (boundNumeral bound.2))) := by
    simp [toJson, Json.ofMembers]
  rw [tree] at read
  rw [get?_of_foldlM_addMember? read relation, lookup_reverse_toList, given]

end Bounds

/-! ## Chains as texts -/

/-- A bound in a query: a keyword and the number behind it. -/
structure WrittenOperand where
  /-- How the value is compared. -/
  relation : Relation
  /-- The keyword for the relation. -/
  keyword : String
  /-- The number, part by part. -/
  number : WrittenNumber

namespace WrittenOperand

/-- The word behind the keyword. -/
def word (operand : WrittenOperand) : String :=
  String.ofList operand.number.text

/-- Keyword and number. -/
def text (operand : WrittenOperand) : String :=
  operand.keyword ++ " " ++ operand.word

/-- Operands behind each other, a space in front of each. -/
def chainText : List WrittenOperand → String
  | [] => ""
  | operand :: operands => " " ++ operand.text ++ chainText operands

/-- The number is an integer of at most fifty-three bits. -/
structure IsInteger (operand : WrittenOperand) (integer : Int) : Prop where
  /-- The number is the integer. -/
  value : operand.number.value = integer
  /-- The integer has at most fifty-three bits. -/
  small : integer.natAbs ≤ greatestWrittenInteger

/-- The parts of an operand are what they have to be. -/
structure IsProper (operand : WrittenOperand) : Prop where
  /-- The keyword is one of those for the relation. -/
  keyword : operand.relation.Written operand.keyword
  /-- The number is put together from proper parts. -/
  number : operand.number.IsProper
  /-- Any other number than such an integer does not lie beyond the finite ones. -/
  finite : (∀ integer, ¬operand.IsInteger integer) →
    ∃ value, Binary64.ofWord? operand.word = some value

/-- The last operand for a relation. -/
def last? (operands : List WrittenOperand) (relation : Relation) : Option WrittenOperand :=
  operands.reverse.find? fun operand => operand.relation == relation

/-- The tokens of an operand. -/
def Reads (operand : WrittenOperand) (tokens : List Token) : Prop :=
  ∃ kind, (kind = .ident ∨ kind = .operator) ∧
    tokens = [.bare kind operand.keyword, .bare .ident operand.word]

variable {operand : WrittenOperand} {operands : List WrittenOperand}

theorem ofWord?_of_isInteger (proper : operand.IsProper) {integer : Int}
    (isInteger : operand.IsInteger integer) :
    Binary64.ofWord? operand.word = some (.ofSmall integer isInteger.small) :=
  WrittenNumber.ofWord?_text proper.number isInteger.value isInteger.small

theorem IsProper.exists_value (proper : operand.IsProper) :
    ∃ value, Binary64.ofWord? operand.word = some value := by
  by_cases isInteger : ∃ integer, operand.IsInteger integer
  · obtain ⟨integer, isInteger⟩ := isInteger
    exact ⟨_, ofWord?_of_isInteger proper isInteger⟩
  · exact proper.finite (not_exists.mp isInteger)

theorem mem_of_last? {relation : Relation} (last : last? operands relation = some operand) :
    operand ∈ operands :=
  List.mem_reverse.mp (List.mem_of_find?_eq_some last)

theorem exists_spelling (proper : operand.IsProper) :
    ∃ tokens, operand.Reads tokens ∧ Spelling operand.text tokens := by
  obtain ⟨kind, isName, spelling⟩ := Query.exists_spelling_name proper.keyword.1
  have isWord := WrittenNumber.isWord_text proper.number
  exact ⟨_, ⟨kind, isName, rfl⟩, spelling.space (.word isWord)⟩

theorem followed_chainText (operands : List WrittenOperand) :
    Followed "" " " (fun operand text => text = operand.text) operands (chainText operands) := by
  induction operands with
  | nil => exact .nil
  | cons operand operands induction => exact .cons rfl induction

end WrittenOperand

namespace Query

open WrittenOperand

variable {settings : Settings}

/-- Tokens that give bounds are read as them, in front of whatever goes on. -/
theorem readChain_of_gives {taken : List Token} {given : List (Relation × Binary64)}
    (gives : Gives taken given) (ending : Ending) (field : String) (bounds : Bounds)
    (more : List Token) :
    readChain ending field bounds (taken ++ more) =
      readChain ending field (given.foldl (fun bounds bound => bounds.set bound.1 bound.2) bounds)
        more := by
  induction gives generalizing bounds with
  | nil => rfl
  | passed notPipe noRelation _ induction =>
      simp [readChain, notPipe, noRelation, induction]
  | @bound operator operand tokens relation number given relates isWord isNumber _ induction =>
      have notPipe : operator.kind ≠ .pipe := by
        intro isPipe
        rw [relation?_pipe isPipe] at relates
        cases relates
      have read : ∀ unlexed, readBound field operand unlexed = .ok number := by
        intro unlexed
        simp [readBound, isWord, isNumber]
      simp [readChain, notPipe, relates, read, induction]

/-- Operands give their numbers. -/
theorem exists_gives {operands : List WrittenOperand} {tokens : List Token}
    (proper : ∀ operand ∈ operands, operand.IsProper)
    (followed : Followed [] [] Reads operands tokens) :
    ∃ given, Gives tokens given ∧ ∀ relation, given.reverse.lookup relation =
      (last? operands relation).bind fun operand => Binary64.ofWord? operand.word := by
  induction followed with
  | nil => exact ⟨[], .nil, fun _ => rfl⟩
  | @cons operand operands text rest first others induction =>
      obtain ⟨isProper, laterProper⟩ := List.forall_mem_cons.mp proper
      obtain ⟨kind, isName, rfl⟩ := first
      obtain ⟨value, isValue⟩ := isProper.exists_value
      obtain ⟨given, gives, last⟩ := induction laterProper
      have relates : relation? (.bare kind operand.keyword) = some operand.relation := by
        rcases isName with rfl | rfl <;>
          simp [relation?, Token.isText, TokenKind.isText, isProper.keyword.2]
      refine ⟨_, .bound relates rfl isValue gives, fun relation => ?_⟩
      rw [List.reverse_cons, List.lookup_append, last, List.lookup_cons, List.lookup_nil]
      cases later : last? operands relation with
      | some other =>
          obtain ⟨number, isNumber⟩ := (laterProper other (mem_of_last? later)).exists_value
          have found : last? (operand :: operands) relation = some other := by
            rw [last?, List.reverse_cons, List.find?_append]
            exact congrArg (Option.or · _) later
          rw [found, Option.bind_some, isNumber]
          rfl
      | none =>
          have found : last? (operand :: operands) relation =
              [operand].find? (·.relation == relation) := by
            rw [last?, List.reverse_cons, List.find?_append]
            exact (congrArg (Option.or · _) later).trans (Option.none_or ..)
          rw [found, Option.bind_none, Option.none_or, List.find?_singleton]
          by_cases same : relation = operand.relation
          · simp [same, isValue]
          · simp [beq_false_of_ne same, beq_false_of_ne (Ne.symm same)]

/-- A field and operands behind it are read as the bounds that the last operands give. -/
theorem exists_parse_chain {field : String} {first : WrittenOperand}
    {others : List WrittenOperand} (writes : settings.WritesField field)
    (proper : ∀ operand ∈ first :: others, operand.IsProper)
    (starts : test? first.keyword = some (.bounds first.relation)) :
    ∃ bounds, parse settings (field ++ chainText (first :: others)) = .ok [.range field bounds] ∧
      ∀ relation, bounds.get? relation =
        (last? (first :: others) relation).bind fun operand => Binary64.ofWord? operand.word := by
  have each : ∀ operand ∈ first :: others, ∀ text, text = operand.text →
      ∃ tokens, operand.Reads tokens ∧ Spelling text tokens := by
    rintro operand member _ rfl
    exact exists_spelling (proper operand member)
  have written := followed_chainText (first :: others)
  obtain ⟨tokens, followed, spelling⟩ := written.exists_spelling separates_space each
  obtain ⟨given, gives, last⟩ := exists_gives proper followed
  let bounds := given.foldl (fun bounds bound => bounds.set bound.1 bound.2) Bounds.empty
  have reads : ReadsClause settings (.range field bounds) (.bare .ident field :: tokens) := by
    refine ⟨_, _, rfl, nofun, fun ending more halts => ⟨true, ?_⟩⟩
    have chain := readChain_of_gives gives ending field .empty more
    rw [readChain_halts field _ halts] at chain
    cases followed with
    | cons reads followed =>
        obtain ⟨kind, isName, rfl⟩ := reads
        have relates : relation? (.bare kind first.keyword) = some first.relation := by
          have isRelation := (proper first List.mem_cons_self).keyword.2
          rcases isName with rfl | rfl <;>
            simp [relation?, Token.isText, TokenKind.isText, isRelation]
        have unnegated : Keyword.isNot first.keyword = false := by
          refine Bool.eq_false_iff.mpr fun negates => ?_
          rw [test?_of_isNot negates] at starts
          cases starts
        simp only [List.nil_append, List.cons_append] at chain ⊢
        rw [readClause_test writes isName unnegated starts, Test.read,
          readRange_eq_readChain relates, chain]
        rfl
  have joined : Joined [] pipeTokens (ReadsClause settings) [.range field bounds]
      ((.bare .ident field :: tokens) ++ []) := .cons reads .nil
  rw [List.append_nil] at joined
  refine ⟨bounds, parse_of_spelling joined ?_, fun relation => ?_⟩
  · intro rest more apart spelled
    have behind := written.apart separates_space apart
    have whole := Spelling.word writes.isWord _ _ behind (spelling _ _ apart spelled)
    simpa [List.append_assoc] using whole
  · rw [Bounds.get?_foldl_set, Bounds.get?_empty, Option.or_none, last]

/-- The bound for a relation is an integer: in the clause, by its plain digits in the text, and in
what is read from the text. -/
structure PassesThrough (field : String) (bounds : Bounds) (text : String) (relation : Relation)
    (integer : Int) : Prop where
  /-- The bound is the integer. -/
  bound : ∃ value, bounds.get? relation = some value ∧ value.toRat = integer
  /-- The text holds the integer. -/
  plain : ∃ members, bounds.toJson = .ofMembers members ∧
    members.lookup relation.word = some (.ofInt integer)
  /-- What is read from the text has the integer as this bound. -/
  back : ∀ decoded, Clause.readAll? text = some decoded → ∃ bounds' value,
    decoded = [.range field bounds'] ∧ bounds'.get? relation = some value ∧
      value.toRat = integer

end Query

/-- The object of bounds holds the numeral of each. -/
theorem Bounds.exists_members (bounds : Bounds) :
    ∃ members, bounds.toJson = .ofMembers members ∧ ∀ relation,
      members.lookup relation.word =
        (bounds.get? relation).map fun value => .number (boundNumeral value) := by
  refine ⟨_, rfl, fun relation => ?_⟩
  rw [← lookup_toList]
  induction bounds.toList with
  | nil => rfl
  | cons bound bounds induction =>
      obtain ⟨other, value⟩ := bound
      have words : (relation.word == other.word) = (relation == other) := by
        cases relation <;> cases other <;> rfl
      rw [List.map_cons, List.lookup_cons, List.lookup_cons, words, induction]
      cases relation == other <;> rfl

namespace Clause

/-- A range in a text is read with the bounds that its object of bounds gives. -/
theorem readAll?_writeAll_range (field : String) (bounds : Bounds) (layout : Json.Layout) :
    readAll? (writeAll layout [.range field bounds]) =
      (Bounds.ofJson? bounds.toJson).map fun bounds => [.range field bounds] := by
  have legible := Json.legible_map legible_toJson [.range field bounds]
  have tree : ofJson? (toJson (.range field bounds)) =
      (Bounds.ofJson? bounds.toJson).map (.range field) := by
    rw [Option.map_eq_bind]
    rfl
  rw [readAll?, writeAll, Json.read?_write layout legible, Option.bind_eq_bind, Option.bind_some,
    List.map_singleton, Json.list?, List.mapM_cons, tree]
  cases Bounds.ofJson? bounds.toJson <;> rfl

end Clause

namespace Query

open WrittenOperand

variable {settings : Settings}

theorem passesThrough_of_get? {field : String} {bounds : Bounds} {relation : Relation}
    {integer : Int} {small : integer.natAbs ≤ greatestWrittenInteger}
    (given : bounds.get? relation = some (.ofSmall integer small)) (layout : Json.Layout) :
    PassesThrough field bounds (Clause.writeAll layout [.range field bounds]) relation integer := by
  have isInteger := Binary64.toRat_ofSmall integer small
  have found := Binary64.toInt?_eq_some_iff.mpr isInteger
  have numeral := boundNumeral_of_integer found small
  have exact := toBinary64?_boundNumeral ⟨integer, found, small⟩
  constructor
  · exact ⟨_, given, isInteger⟩
  · obtain ⟨members, tree, lookup⟩ := bounds.exists_members
    refine ⟨members, tree, ?_⟩
    rw [lookup, given, Option.map_some, numeral]
    rfl
  · intro decoded read
    rw [Clause.readAll?_writeAll_range, Option.map_eq_some_iff] at read
    obtain ⟨bounds', back, rfl⟩ := read
    have same := (Bounds.get?_of_ofJson?_toJson back given).trans exact
    exact ⟨bounds', _, rfl, same, isInteger⟩

/-- Every other number keeps its point or its exponent, and no number is changed by the conversion
to a machine integer. -/
theorem boundNumeral_cases (value : Binary64) :
    (∀ integer : Int, value.toRat = integer → integer.natAbs ≤ greatestWrittenInteger →
      boundNumeral value = .ofInt integer ∧ value.toInt64 = integer) ∧
    ((∀ integer : Int, value.toRat = integer → greatestWrittenInteger < integer.natAbs) →
      boundNumeral value = boundLayout.numeral value.shortest ∧ ¬(boundNumeral value).IsPlain) := by
  refine ⟨fun integer isInteger small => ⟨?_, Binary64.toInt64_of_integer isInteger small⟩, ?_⟩
  · exact boundNumeral_of_integer (Binary64.toInt?_eq_some_iff.mpr isInteger) small
  · intro large
    have fractional : ¬value.IsWrittenInteger := by
      rw [Binary64.isWrittenInteger_iff]
      rintro ⟨integer, isInteger, small⟩
      exact Nat.not_lt.mpr small (large integer isInteger)
    rw [boundNumeral_of_not_integer fractional]
    exact ⟨rfl, Numeral.not_isPlain_numeral _ _⟩

/-- A bound that is an integer of at most fifty-three bits, in whatever way it is written, is
accepted, has its plain digits in the answer and is the integer again when the answer is read.
These ways are all that are read as numbers.  A bound that is none of these integers keeps a point
or an exponent, so the conversion to a machine integer, which might cut it off or saturate it, is
never made. -/
theorem write_integers {field : String} {first : WrittenOperand} {others : List WrittenOperand}
    (writes : settings.WritesField field)
    (proper : ∀ operand ∈ first :: others, operand.IsProper)
    (starts : test? first.keyword = some (.bounds first.relation)) (layout : Json.Layout) :
    (∃ bounds,
      parse settings (field ++ chainText (first :: others)) = .ok [.range field bounds] ∧
      (∀ relation operand integer, last? (first :: others) relation = some operand →
        operand.IsInteger integer →
          PassesThrough field bounds (write settings layout (field ++ chainText (first :: others)))
            relation integer) ∧
      ((∀ operand ∈ first :: others, ∃ integer, operand.IsInteger integer) →
        Clause.readAll? (write settings layout (field ++ chainText (first :: others))) =
          some [.range field bounds])) ∧
    (∀ characters, (Decimal.read? characters).isSome ↔
      ∃ number : WrittenNumber, number.IsProper ∧ number.text = characters) ∧
    (∀ integer, (Json.ofInt integer).write layout = toString integer) ∧
    ∀ value : Binary64,
      (∀ integer : Int, value.toRat = integer → integer.natAbs ≤ greatestWrittenInteger →
        boundNumeral value = .ofInt integer ∧ value.toInt64 = integer) ∧
      ((∀ integer : Int, value.toRat = integer → greatestWrittenInteger < integer.natAbs) →
        boundNumeral value = boundLayout.numeral value.shortest ∧
          ¬(boundNumeral value).IsPlain) := by
  obtain ⟨bounds, parsed, last⟩ := exists_parse_chain writes proper starts
  have answer : write settings layout (field ++ chainText (first :: others)) =
      Clause.writeAll layout [.range field bounds] := by
    rw [write, parsed]
  have passes : ∀ relation operand integer, last? (first :: others) relation = some operand →
      (isInteger : operand.IsInteger integer) →
        bounds.get? relation = some (.ofSmall integer isInteger.small) := by
    intro relation operand integer isLast isInteger
    rw [last, isLast, Option.bind_some,
      ofWord?_of_isInteger (proper operand (mem_of_last? isLast)) isInteger]
  refine ⟨⟨bounds, parsed, ?_, ?_⟩, fun _ => WrittenNumber.isSome_read?_iff, fun integer => ?_,
    boundNumeral_cases⟩
  · intro relation operand integer isLast isInteger
    rw [answer]
    exact passesThrough_of_get? (passes relation operand integer isLast isInteger) layout
  · intro integers
    have exact : bounds.ReadExactly := by
      intro relation value given fractional
      have written := given
      rw [last, Option.bind_eq_some_iff] at written
      obtain ⟨operand, isLast, -⟩ := written
      obtain ⟨integer, isInteger⟩ := integers operand (mem_of_last? isLast)
      have found := passes relation operand integer isLast isInteger
      obtain rfl := Option.some.inj (found.symm.trans given)
      have whole := Binary64.toRat_ofSmall integer isInteger.small
      exact absurd (Binary64.isWrittenInteger_iff.mpr ⟨integer, whole, isInteger.small⟩) fractional
    rw [answer, Clause.readAll?_writeAll_range, Bounds.ofJson?_toJson exact, Option.map_some]
  · rw [← String.toList_inj, ← Numeral.text_ofInt]
    simp [Json.ofInt, Json.write, Json.placed, Json.spell, Json.Lexeme.text]

/-- The greatest of the integers with a fraction of zeros, a zero with a sign and an exponent, and
two bounds for one relation, the later of which is a fraction. -/
def spelledChain : List WrittenOperand :=
  [{ relation := .gt
     keyword := ">"
     number :=
      { sign := some false
        whole := "0012".toList
        decimals := some "50".toList
        exponent := some ('E', none, "1".toList) } },
    { relation := .lt
      keyword := "LT"
      number :=
        { sign := none
          whole := "9007199254740991".toList
          decimals := some "00".toList
          exponent := none } },
    { relation := .gte
      keyword := ">="
      number :=
        { sign := some true
          whole := "0".toList
          decimals := none
          exponent := some ('e', some false, "07".toList) } },
    { relation := .gt
      keyword := "gt"
      number :=
        { sign := none, whole := [], decimals := some "5".toList, exponent := none } }]

theorem write_integers_spelled :
    (Settings.ofFields ["severity"]).WritesField "severity" ∧
      (∀ operand ∈ spelledChain, operand.IsProper) ∧ test? ">" = some (.bounds .gt) ∧
      "severity" ++ chainText spelledChain =
        "severity > +0012.50E1 LT 9007199254740991.00 >= -0e+07 gt .5" ∧
      ∃ bounds,
        parse (.ofFields ["severity"]) ("severity" ++ chainText spelledChain) =
          .ok [.range "severity" bounds] ∧
        PassesThrough "severity" bounds
          (write (.ofFields ["severity"]) .compact ("severity" ++ chainText spelledChain)) .lt
            9007199254740991 ∧
        PassesThrough "severity" bounds
          (write (.ofFields ["severity"]) .compact ("severity" ++ chainText spelledChain)) .gte
            0 := by
  have writes : (Settings.ofFields ["severity"]).WritesField "severity" :=
    ⟨⟨by decide +kernel, by decide +kernel⟩, by decide +kernel⟩
  have starts : test? ">" = some (.bounds .gt) := by decide +kernel
  have proper : ∀ operand ∈ spelledChain, operand.IsProper := by
    intro operand member
    simp only [spelledChain, List.mem_cons, List.not_mem_nil, or_false] at member
    rcases member with rfl | rfl | rfl | rfl <;>
      exact
        { keyword := ⟨by decide +kernel, by decide +kernel⟩
          number := by decide +kernel
          finite := fun _ => Option.isSome_iff_exists.mp (by decide +kernel) }
  obtain ⟨bounds, parsed, passes, -⟩ := (write_integers writes proper starts .compact).1
  refine ⟨writes, proper, starts, by decide +kernel, bounds, parsed, ?_, ?_⟩
  · refine passes .lt _ _ rfl ⟨?_, by decide⟩
    decide +kernel
  · refine passes .gte _ _ rfl ⟨?_, by decide⟩
    decide +kernel

end Query
end PipeQuery

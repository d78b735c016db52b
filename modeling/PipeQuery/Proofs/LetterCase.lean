import Mathlib.Data.List.Forall2
import PipeQuery.Proofs.Number.LetterCase
import PipeQuery.Query.Run

/-!
# The case of letters

Keywords are read without regard to the case of the Latin letters in them; fields and reserved words
are not.  So two queries with tokens of the same kinds at the same places, which differ in the case
of letters alone and not in their fields and reserved words, are read alike: the texts in their
clauses differ in the case of letters alone, or both are refused for the same sort of cause at the
same place (`Query.parse_recased`).
-/

namespace PipeQuery

namespace Keyword

/-- The same text but for the case of the Latin letters in it. -/
def SameLetters (left right : String) : Prop :=
  lower left = lower right

theorem sameLetters_iff {left right : String} :
    SameLetters left right ↔
      left.toList.map Char.toLower = right.toList.map Char.toLower := by
  rw [SameLetters, lower, lower, ← String.toList_inj, String.toList_map, String.toList_map]

instance (left right : String) : Decidable (SameLetters left right) :=
  decidable_of_iff _ sameLetters_iff.symm

section SameLetters

variable {left right : String}

theorem relation?_congr (same : SameLetters left right) : relation? left = relation? right := by
  rw [relation?, relation?, same]

theorem comparison?_congr (same : SameLetters left right) :
    comparison? left = comparison? right := by
  rw [comparison?, comparison?, same]

theorem isIn_congr (same : SameLetters left right) : isIn left = isIn right := by
  rw [isIn, isIn, same]

theorem isNot_congr (same : SameLetters left right) : isNot left = isNot right := by
  rw [isNot, isNot, same]

theorem test?_congr (same : SameLetters left right) : Query.test? left = Query.test? right := by
  rw [Query.test?, Query.test?, isIn_congr same, comparison?_congr same, relation?_congr same]

theorem ofWord?_congr (same : SameLetters left right) :
    Binary64.ofWord? left = Binary64.ofWord? right := by
  rw [← Binary64.ofWord?_lower left, same, Binary64.ofWord?_lower]

/-- An at sign in front is no letter. -/
theorem head?_at_congr (same : SameLetters left right) :
    (left.toList.head? == some '@') = (right.toList.head? == some '@') := by
  have marked : ∀ word : String,
      (word.toList.head? == some '@') = ((lower word).toList.head? == some '@') := by
    intro word
    rw [lower, String.toList_map, List.head?_map]
    cases word.toList.head? with
    | none => rfl
    | some c =>
        have marks : c.toLower = '@' ↔ c = '@' := Text.toLower_eq_iff (by decide)
        rw [Bool.eq_iff_iff]
        simp [marks]
  rw [marked, marked right, same]

end SameLetters
end Keyword

open Keyword

/-! ## Tokens and clauses that differ in the case of letters -/

/-- Two tokens of one kind at one place, which differ in the case of letters alone and not where one
of them is a reserved word or a field. -/
structure Token.Recased (settings : Settings) (left right : Token) : Prop where
  /-- The kind is the same. -/
  kind : left.kind = right.kind
  /-- The place is the same. -/
  pos : left.pos = right.pos
  /-- The values have the same letters. -/
  value : SameLetters left.value right.value
  /-- Reserved words and fields are spelled alike. -/
  name : left.kind = .ident →
    (∃ word ∈ [left.value, right.value], word ∈ reserved ∨ settings.admits word = true) →
    left.value = right.value

instance (settings : Settings) (left right : Token) : Decidable (left.Recased settings right) :=
  decidable_of_iff
    (left.kind = right.kind ∧ left.pos = right.pos ∧ SameLetters left.value right.value ∧
      (left.kind = .ident →
        (∃ word ∈ [left.value, right.value], word ∈ reserved ∨ settings.admits word = true) →
        left.value = right.value))
    ⟨fun ⟨kind, pos, value, name⟩ => ⟨kind, pos, value, name⟩,
      fun recased => ⟨recased.kind, recased.pos, recased.value, recased.name⟩⟩

/-- The same demand on versions that have the same letters. -/
structure Constraint.Recased (left right : Constraint) : Prop where
  /-- The relation is the same. -/
  relation : left.relation = right.relation
  /-- The versions have the same letters. -/
  version : SameLetters left.version right.version

/-- Softwares whose names and demands have the same letters. -/
structure Software.Recased (left right : Software) : Prop where
  /-- The names have the same letters. -/
  name : SameLetters left.name right.name
  /-- There are as many demands, which have the same letters. -/
  versions : List.Forall₂ Constraint.Recased left.versions right.versions

/-- Requests of one sort for softwares, or a list of them, whose names have the same letters. -/
structure SoftwareRequest.Recased (left right : SoftwareRequest) : Prop where
  /-- The softwares have the same letters. -/
  entries : List.Forall₂ Software.Recased left.entries right.entries
  /-- The names of lists have the same letters. -/
  listReference : Option.Rel SameLetters left.listReference right.listReference
  /-- Both are fuzzy, or none. -/
  fuzzy : left.fuzzy = right.fuzzy

/-- Clauses of one sort on the same field, with the same bounds and the same negation, whose texts
have the same letters. -/
inductive Clause.Recased : Clause → Clause → Prop where
  | software {left right : SoftwareRequest} (request : left.Recased right) :
      Recased (.software left) (.software right)
  | oneOf {left right : List String} (field : String) (negated : Bool)
      (values : List.Forall₂ SameLetters left right) :
      Recased (.oneOf field left negated) (.oneOf field right negated)
  | range (field : String) (bounds : Bounds) : Recased (.range field bounds) (.range field bounds)
  | matching {left right : String} (field : String) (text : SameLetters left right) :
      Recased (.matching field left) (.matching field right)
  | exact {left right : String} (field : String) (text : SameLetters left right) :
      Recased (.exact field left) (.exact field right)
  | filter {left right : String} (name : SameLetters left right) :
      Recased (.filter left) (.filter right)
  | group {left right : String} (field : SameLetters left right) :
      Recased (.group left) (.group right)

namespace Query

/-- Two outcomes agree: their values are related, or both are failures of one sort at one place. -/
inductive Agree {α : Type} (related : α → α → Prop) :
    Except Failure α → Except Failure α → Prop where
  | ok {left right : α} (value : related left right) : Agree related (.ok left) (.ok right)
  | error {left right : Failure} (code : left.cause.code = right.cause.code)
      (column : left.column = right.column) : Agree related (.error left) (.error right)

/-- Readings with related meanings, which leave tokens that differ in the case of letters. -/
structure Reading.Recased {α : Type} (settings : Settings) (related : α → α → Prop)
    (left right : Reading α) : Prop where
  /-- The meanings are related. -/
  value : related left.value right.value
  /-- As many tokens are left. -/
  rest : List.Forall₂ (Token.Recased settings) left.rest right.rest

namespace Agree

variable {α β : Type} {related : α → α → Prop} {related' : β → β → Prop} {settings : Settings}

theorem exists_ok {value : α} {outcome : Except Failure α}
    (agree : Agree related (.ok value) outcome) :
    ∃ value', outcome = .ok value' ∧ related value value' := by
  cases agree with
  | ok same => exact ⟨_, rfl, same⟩

theorem exists_error {failure : Failure} {outcome : Except Failure α}
    (agree : Agree related (.error failure) outcome) :
    ∃ failure', outcome = .error failure' ∧ failure.cause.code = failure'.cause.code ∧
      failure.column = failure'.column := by
  cases agree with
  | error code column => exact ⟨_, rfl, code, column⟩

theorem blame {left right : Token} {cause cause' : Cause} (recased : left.Recased settings right)
    (code : cause.code = cause'.code) (unlexed unlexed' : List Token) :
    Agree related (.error (.blame left cause unlexed)) (.error (.blame right cause' unlexed')) :=
  .error code recased.pos

theorem refuse {cause cause' : Cause} (code : cause.code = cause'.code) (ending : Ending) :
    Agree related (.error (ending.refuse cause)) (.error (ending.refuse cause')) := by
  obtain ⟨_ | fault, length⟩ := ending
  · exact .error code rfl
  · exact .error rfl rfl

theorem settle {left right : α} (value : related left right) (ending : Ending) :
    Agree (Reading.Recased settings related)
      (ending.settle.map fun _ => { value := left, lookedAhead := true, rest := [] })
      (ending.settle.map fun _ => { value := right, lookedAhead := true, rest := [] }) := by
  obtain ⟨_ | fault, length⟩ := ending
  · exact .ok ⟨value, .nil⟩
  · exact .error rfl rfl

theorem map {left right : Except Failure (Reading α)} {f g : α → β}
    (agree : Agree (Reading.Recased settings related) left right)
    (kept : ∀ value value', related value value' → related' (f value) (g value')) :
    Agree (Reading.Recased settings related') (left.map (Reading.map f))
      (right.map (Reading.map g)) := by
  cases agree with
  | ok value => exact .ok ⟨kept _ _ value.value, value.rest⟩
  | error code column => exact .error code column

theorem bind {left right : Except Failure α} {f g : α → Except Failure β}
    (agree : Agree related left right)
    (onward : ∀ value value', related value value' → Agree related' (f value) (g value')) :
    Agree related' (left >>= f) (right >>= g) := by
  cases agree with
  | ok value => exact onward _ _ value
  | error code column => exact .error code column

end Agree

/-! ## Readers -/

variable {settings : Settings} {ending : Ending}

theorem readClosing_recased (required : Bool) {left right : List Token}
    (recased : List.Forall₂ (Token.Recased settings) left right) :
    Agree (Reading.Recased settings fun _ _ => True) (readClosing ending required left)
      (readClosing ending required right) := by
  cases recased with
  | nil =>
      cases required with
      | true => exact .refuse rfl ending
      | false => exact .settle trivial ending
  | cons token rest =>
      rw [readClosing, readClosing, ← token.kind]
      split
      · exact .ok ⟨trivial, rest⟩
      · split
        · exact .blame token rfl _ _
        · exact .ok ⟨trivial, .cons token rest⟩

/-- Lists of values in which the values have the same letters. -/
structure ValueList.Recased (settings : Settings) (left right : ValueList) : Prop where
  /-- There are as many values, which have the same letters. -/
  values : List.Forall₂ SameLetters left.values right.values
  /-- Both ask for a closing parenthesis, or none. -/
  opened : left.opened = right.opened
  /-- As many tokens are left. -/
  rest : List.Forall₂ (Token.Recased settings) left.rest right.rest

theorem ValueList.read_recased (afterComma : Bool) {left right : List Token}
    (recased : List.Forall₂ (Token.Recased settings) left right) :
    (ValueList.read afterComma left).Recased settings (ValueList.read afterComma right) := by
  induction recased generalizing afterComma with
  | nil => exact ⟨.nil, rfl, .nil⟩
  | @cons token token' rest rest' same others induction =>
      rw [ValueList.read, ValueList.read, ← same.kind]
      split
      · exact ⟨.nil, rfl, .cons same others⟩
      · split
        · exact induction true
        · exact ⟨(induction false).values, rfl, (induction false).rest⟩
        · exact ⟨.cons same.value (induction false).values, (induction false).opened,
            (induction false).rest⟩
        · exact ⟨.cons same.value (induction false).values, (induction false).opened,
            (induction false).rest⟩
        · exact induction false
        · exact induction false
        · exact induction false

theorem readOneOf_recased (field : String) (negated : Bool) {left right : List Token}
    (recased : List.Forall₂ (Token.Recased settings) left right) :
    Agree (Reading.Recased settings Clause.Recased) (readOneOf ending field negated left)
      (readOneOf ending field negated right) := by
  have list := ValueList.read_recased false recased
  rw [readOneOf, readOneOf, list.opened]
  exact (readClosing_recased _ list.rest).map fun _ _ _ => .oneOf field negated list.values

theorem readBound_recased (field : String) {left right : Token}
    (recased : left.Recased settings right) (unlexed unlexed' : List Token) :
    Agree Eq (readBound field left unlexed) (readBound field right unlexed') := by
  rw [readBound, readBound, ← recased.kind, ← ofWord?_congr recased.value]
  split
  · split
    · exact .ok rfl
    · exact .blame recased (by rfl) _ _
  · exact .blame recased rfl _ _

theorem relation?_recased {left right : Token} (recased : left.Recased settings right) :
    relation? left = relation? right := by
  rw [relation?, relation?, Token.isText, Token.isText, recased.kind,
    relation?_congr recased.value]

theorem readChain_recased (field : String) (bounds : Bounds) {left right : List Token}
    (recased : List.Forall₂ (Token.Recased settings) left right) :
    Agree (Reading.Recased settings Eq) (readChain ending field bounds left)
      (readChain ending field bounds right) := by
  fun_induction readChain ending field bounds left generalizing right with
  | case1 bounds =>
      cases recased
      exact .settle rfl ending
  | case2 bounds token rest isPipe =>
      obtain _ | @⟨_, token', _, rest', same, others⟩ := recased
      rw [readChain, if_pos (same.kind ▸ isPipe)]
      exact .ok ⟨rfl, .cons same others⟩
  | case3 bounds token rest notPipe noRelation induction =>
      obtain _ | @⟨_, token', _, rest', same, others⟩ := recased
      rw [readChain, if_neg (same.kind ▸ notPipe), ← relation?_recased same, noRelation]
      exact induction others
  | case4 bounds token notPipe relation isRelation =>
      obtain _ | @⟨_, token', _, rest', same, ⟨⟩⟩ := recased
      rw [readChain, if_neg (same.kind ▸ notPipe), ← relation?_recased same, isRelation]
      exact .refuse rfl ending
  | case5 bounds token notPipe relation isRelation operand rest failure failed =>
      obtain _ | @⟨_, token', _, rest', same, others⟩ := recased
      obtain _ | @⟨_, operand', _, rest', sameOperand, others⟩ := others
      rw [readChain, if_neg (same.kind ▸ notPipe), ← relation?_recased same, isRelation]
      have bound := readBound_recased field sameOperand rest rest'
      rw [failed] at bound
      obtain ⟨failure', failed', code, column⟩ := bound.exists_error
      simpa only [failed'] using .error code column
  | case6 bounds token notPipe relation isRelation operand rest value read induction =>
      obtain _ | @⟨_, token', _, rest', same, others⟩ := recased
      obtain _ | @⟨_, operand', _, rest', sameOperand, others⟩ := others
      rw [readChain, if_neg (same.kind ▸ notPipe), ← relation?_recased same, isRelation]
      have bound := readBound_recased field sameOperand rest rest'
      rw [read] at bound
      obtain ⟨_, read', rfl⟩ := bound.exists_ok
      simpa only [read'] using induction others

theorem readRange_recased (field : String) (relation : Relation) {left right : List Token}
    (recased : List.Forall₂ (Token.Recased settings) left right) :
    Agree (Reading.Recased settings Clause.Recased) (readRange ending field relation left)
      (readRange ending field relation right) := by
  cases recased with
  | nil => exact .refuse rfl ending
  | cons operand rest =>
      refine (readBound_recased field operand _ _).bind ?_
      rintro value _ rfl
      refine (readChain_recased field _ rest).bind fun chain chain' same => ?_
      obtain ⟨meaning, left⟩ := same
      refine .ok ⟨?_, left⟩
      simp only [Reading.map, meaning]
      exact .range field _

theorem readConstraint_recased {relation relation' version version' : Token}
    (sameRelation : relation.Recased settings relation')
    (sameVersion : version.Recased settings version') (unlexed unlexed' : List Token) :
    Agree Constraint.Recased (readConstraint relation version unlexed)
      (readConstraint relation' version' unlexed') := by
  rw [readConstraint, readConstraint, Token.isText, Token.isText, ← sameVersion.kind,
    ← relation?_congr sameRelation.value]
  split
  · split
    · exact .ok ⟨rfl, sameVersion.value⟩
    · exact .blame sameRelation (by rfl) _ _
  · exact .blame sameVersion rfl _ _

theorem Software.recased_withVersion {software software' : Software}
    {constraint constraint' : Constraint} (same : software.Recased software')
    (demand : constraint.Recased constraint') :
    (software.withVersion constraint.relation constraint.version).Recased
      (software'.withVersion constraint'.relation constraint'.version) :=
  ⟨same.name, List.rel_append same.versions (.cons demand .nil)⟩

theorem readEntries_recased {current? current?' : Option Software} {left right : List Token}
    (same : Option.Rel Software.Recased current? current?')
    (recased : List.Forall₂ (Token.Recased settings) left right) :
    Agree (Reading.Recased settings (List.Forall₂ Software.Recased))
      (readEntries ending current? left) (readEntries ending current?' right) := by
  fun_induction readEntries ending current? left generalizing current?' right with
  | case1 =>
      cases recased
      cases same
      exact .refuse rfl ending
  | case2 current =>
      cases recased
      obtain ⟨same⟩ := same
      exact .settle (.cons same .nil) ending
  | case3 token rest isComma induction =>
      obtain _ | @⟨_, token', _, rest', head, others⟩ := recased
      cases same
      rw [readEntries_none_cons, if_pos (head.kind ▸ isComma)]
      exact induction .none others
  | case4 token rest notComma isText induction =>
      obtain _ | @⟨_, token', _, rest', head, others⟩ := recased
      cases same
      have isText' : token'.isText = true := by rw [Token.isText, ← head.kind]; exact isText
      rw [readEntries_none_cons, if_neg (head.kind ▸ notComma), if_pos isText']
      exact induction (.some ⟨head.value, .nil⟩) others
  | case5 token rest notComma notText =>
      obtain _ | @⟨_, token', _, rest', head, others⟩ := recased
      cases same
      have notText' : ¬token'.isText = true := by rw [Token.isText, ← head.kind]; exact notText
      rw [readEntries_none_cons, if_neg (head.kind ▸ notComma), if_neg notText']
      exact .blame head rfl _ _
  | case6 token rest current ends =>
      obtain _ | @⟨_, token', _, rest', head, others⟩ := recased
      obtain ⟨same⟩ := same
      rw [readEntries_some_cons, if_pos (head.kind ▸ ends)]
      exact .ok ⟨.cons same .nil, .cons head others⟩
  | case7 token rest current goesOn isComma induction =>
      obtain _ | @⟨_, token', _, rest', head, others⟩ := recased
      obtain ⟨same⟩ := same
      rw [readEntries_some_cons, if_neg (head.kind ▸ goesOn), if_pos (head.kind ▸ isComma)]
      exact (induction .none others).map fun _ _ entries => .cons same entries
  | case8 token current goesOn notComma =>
      obtain _ | @⟨_, token', _, rest', head, ⟨⟩⟩ := recased
      obtain ⟨same⟩ := same
      rw [readEntries_some_cons, if_neg (head.kind ▸ goesOn), if_neg (head.kind ▸ notComma)]
      exact .refuse rfl ending
  | case9 token current goesOn notComma version rest failure failed =>
      obtain _ | @⟨_, token', _, rest', head, others⟩ := recased
      obtain _ | @⟨_, version', _, rest', sameVersion, others⟩ := others
      obtain ⟨same⟩ := same
      rw [readEntries_some_cons, if_neg (head.kind ▸ goesOn), if_neg (head.kind ▸ notComma)]
      have constraint := readConstraint_recased head sameVersion rest rest'
      rw [failed] at constraint
      obtain ⟨failure', failed', code, column⟩ := constraint.exists_error
      simpa only [failed'] using .error code column
  | case10 token current goesOn notComma version rest constraint read induction =>
      obtain _ | @⟨_, token', _, rest', head, others⟩ := recased
      obtain _ | @⟨_, version', _, rest', sameVersion, others⟩ := others
      obtain ⟨same⟩ := same
      rw [readEntries_some_cons, if_neg (head.kind ▸ goesOn), if_neg (head.kind ▸ notComma)]
      have constraint' := readConstraint_recased head sameVersion rest rest'
      rw [read] at constraint'
      obtain ⟨_, read', demand⟩ := constraint'.exists_ok
      simpa only [read'] using
        induction (.some (Software.recased_withVersion same demand)) others

theorem isListReference_recased {left right : Token} (recased : left.Recased settings right) :
    isListReference left = isListReference right := by
  rw [isListReference, isListReference, recased.kind, head?_at_congr recased.value]

theorem readRequested_recased (fuzzy opened : Bool) {left right : List Token}
    (recased : List.Forall₂ (Token.Recased settings) left right) :
    Agree (Reading.Recased settings SoftwareRequest.Recased)
      (readRequested ending fuzzy opened left) (readRequested ending fuzzy opened right) := by
  cases recased with
  | nil => exact .refuse rfl ending
  | cons head others =>
      rw [readRequested, readRequested, Token.isText, Token.isText, ← head.kind,
        ← isListReference_recased head]
      split
      · split
        · exact (readClosing_recased opened others).map fun _ _ _ => ⟨.nil, .some head.value, rfl⟩
        · refine (readEntries_recased .none (.cons head others)).bind fun _ _ same => ?_
          refine (readClosing_recased opened same.rest).bind fun closing closing' closed => ?_
          exact .ok ⟨⟨same.value, .none, rfl⟩, closed.rest⟩
      · exact .blame head rfl _ _

theorem readOpening_recased {left right : List Token}
    (recased : List.Forall₂ (Token.Recased settings) left right) :
    (readOpening left).1 = (readOpening right).1 ∧
      List.Forall₂ (Token.Recased settings) (readOpening left).2 (readOpening right).2 := by
  cases recased with
  | nil => exact ⟨rfl, .nil⟩
  | cons head others =>
      rw [readOpening, readOpening, ← head.kind]
      split
      · exact ⟨rfl, others⟩
      · exact ⟨rfl, .cons head others⟩

theorem readSoftware_recased {left right : List Token}
    (recased : List.Forall₂ (Token.Recased settings) left right) :
    Agree (Reading.Recased settings Clause.Recased) (readSoftware ending left)
      (readSoftware ending right) := by
  cases recased with
  | nil => exact .refuse rfl ending
  | cons keyword others =>
      obtain ⟨opened, rest⟩ := readOpening_recased others
      rw [readSoftware, readSoftware, Token.isText, Token.isText, ← keyword.kind,
        ← comparison?_congr keyword.value]
      split
      · split
        · exact .blame keyword (by rfl) _ _
        · simp only [opened]
          exact (readRequested_recased _ _ rest).map fun _ _ request => .software request
      · exact .blame keyword rfl _ _

theorem readText_recased (field : String) (comparison : Comparison) {left right : List Token}
    (recased : List.Forall₂ (Token.Recased settings) left right) :
    Agree (Reading.Recased settings Clause.Recased) (readText ending field comparison left)
      (readText ending field comparison right) := by
  cases recased with
  | nil => exact .refuse rfl ending
  | @cons token token' _ _ head others =>
      have sameSort : token'.isText = token.isText := congrArg TokenKind.isText head.kind.symm
      by_cases isText : token.isText = true
      · simp only [readText, sameSort, isText, if_true]
        cases comparison with
        | matching => exact .ok ⟨.matching field head.value, others⟩
        | equal => exact .ok ⟨.exact field head.value, others⟩
      · simp only [readText, sameSort, isText, Bool.false_eq_true, if_false]
        exact .blame head rfl _ _

theorem readTest_recased (field : String) (negated : Bool) {left right : List Token}
    (recased : List.Forall₂ (Token.Recased settings) left right) :
    Agree (Reading.Recased settings Clause.Recased) (readTest ending field negated left)
      (readTest ending field negated right) := by
  cases recased with
  | nil => exact .refuse rfl ending
  | cons keyword others =>
      rw [readTest, readTest, ← keyword.kind, ← test?_congr keyword.value]
      split
      · split
        · exact readOneOf_recased field negated others
        · exact readText_recased field _ others
        · exact readRange_recased field _ others
        · exact .blame keyword (by rfl) _ _
      · exact .blame keyword (by rfl) _ _

theorem readNegation_recased {left right : List Token}
    (recased : List.Forall₂ (Token.Recased settings) left right) :
    (readNegation left).1 = (readNegation right).1 ∧
      List.Forall₂ (Token.Recased settings) (readNegation left).2 (readNegation right).2 := by
  cases recased with
  | nil => exact ⟨rfl, .nil⟩
  | cons head others =>
      rw [readNegation, readNegation, ← head.kind, ← isNot_congr head.value]
      split
      · exact ⟨rfl, others⟩
      · exact ⟨rfl, .cons head others⟩

/-- An optional clause and another one: both are there or none, and they differ in the case of
letters alone. -/
abbrev RecasedIfAny : Option Clause → Option Clause → Prop :=
  Option.Rel Clause.Recased

theorem readOperand_recased {clause : String → Clause}
    (sort : ∀ {value value'}, SameLetters value value' → (clause value).Recased (clause value'))
    {left right : List Token} (recased : List.Forall₂ (Token.Recased settings) left right) :
    Agree (Reading.Recased settings RecasedIfAny) (readOperand ending clause left)
      (readOperand ending clause right) := by
  cases recased with
  | nil => exact .settle .none ending
  | cons head others => exact .ok ⟨.some (sort head.value), others⟩

theorem readWord_recased {word word' : Token} {rest rest' : List Token}
    (isWord : word.kind = .ident) (same : word.Recased settings word')
    (recased : List.Forall₂ (Token.Recased settings) rest rest') :
    Agree (Reading.Recased settings RecasedIfAny) (readWord settings ending word rest)
      (readWord settings ending word' rest') := by
  by_cases named : ∃ name ∈ [word.value, word'.value], name ∈ reserved ∨ settings.admits name = true
  · have sameName := same.name isWord named
    by_cases isReserved : word.value ∈ reserved
    · have isReserved' := isReserved
      simp only [reserved, List.mem_cons, List.not_mem_nil, or_false] at isReserved'
      rcases isReserved' with isFilter | isGroup | isSoftware
      · rw [readWord_filter isFilter, readWord_filter (sameName ▸ isFilter)]
        exact readOperand_recased .filter recased
      · rw [readWord_group isGroup, readWord_group (sameName ▸ isGroup)]
        exact readOperand_recased .group recased
      · rw [readWord_software isSoftware, readWord_software (sameName ▸ isSoftware)]
        exact (readSoftware_recased recased).map fun _ _ clause => .some clause
    · rw [readWord_field isReserved, readWord_field (sameName ▸ isReserved), ← sameName]
      obtain ⟨negated, behind⟩ := readNegation_recased recased
      split
      · rw [negated]
        exact (readTest_recased _ _ behind).map fun _ _ clause => .some clause
      · exact .blame same rfl _ _
  · have unknown : ∀ name ∈ [word.value, word'.value],
        name ∉ reserved ∧ ¬settings.admits name = true := by
      intro name member
      exact not_or.mp fun known => named ⟨name, member, known⟩
    obtain ⟨free, refused⟩ := unknown word.value (by simp)
    obtain ⟨free', refused'⟩ := unknown word'.value (by simp)
    rw [readWord_field free, readWord_field free', if_neg refused, if_neg refused']
    exact .blame same (by rfl) _ _

theorem readClause_recased (ending : Ending) {token token' : Token} {rest rest' : List Token}
    (same : token.Recased settings token')
    (recased : List.Forall₂ (Token.Recased settings) rest rest') :
    Agree (Reading.Recased settings RecasedIfAny) (readClause settings ending token rest)
      (readClause settings ending token' rest') := by
  cases kind : token.kind with
  | ident =>
      simp only [readClause, ← same.kind, kind]
      exact readWord_recased kind same recased
  | string =>
      simp only [readClause, ← same.kind, kind]
      exact .ok ⟨.some (.matching settings.fullTextField same.value), recased⟩
  | pipe | openParen | closeParen | comma | operator =>
      simp only [readClause, ← same.kind, kind]
      exact .blame same (by rfl) _ _

theorem forall₂_toList {left right : Option Clause} (same : RecasedIfAny left right) :
    List.Forall₂ Clause.Recased left.toList right.toList := by
  cases same with
  | none => exact .nil
  | some clause => exact .cons clause .nil

/-- Clauses put in front of outcomes that agree. -/
theorem Agree.push {run run' : Run} {reading reading' : Reading (Option Clause)}
    (agree : Agree (List.Forall₂ Clause.Recased) run.outcome run'.outcome)
    (same : RecasedIfAny reading.value reading'.value) :
    Agree (List.Forall₂ Clause.Recased) (run.push reading).outcome
      (run'.push reading').outcome := by
  rw [outcome_push, outcome_push]
  cases outcome : run.outcome with
  | error failure =>
      rw [outcome] at agree
      obtain ⟨failure', outcome', code, column⟩ := agree.exists_error
      rw [outcome']
      exact .error code column
  | ok clauses =>
      rw [outcome] at agree
      obtain ⟨clauses', outcome', others⟩ := agree.exists_ok
      rw [outcome']
      exact .ok (List.rel_append (forall₂_toList same) others)

theorem readClauses_recased (ending : Ending) {left right : List Token}
    (recased : List.Forall₂ (Token.Recased settings) left right) :
    Agree (List.Forall₂ Clause.Recased) (readClauses settings ending left).outcome
      (readClauses settings ending right).outcome := by
  fun_induction readClauses settings ending left generalizing right with
  | case1 _ settled =>
      cases recased
      rw [readClauses, settled]
      exact .ok .nil
  | case2 failure settled =>
      cases recased
      rw [readClauses, settled]
      exact .error rfl rfl
  | case3 token rest isPipe induction =>
      obtain _ | @⟨_, token', _, rest', head, others⟩ := recased
      rw [readClauses_pipe _ _ _ (head.kind ▸ isPipe)]
      exact induction others
  | case4 token rest notPipe reading read induction =>
      obtain _ | @⟨_, token', _, rest', head, others⟩ := recased
      have clause := readClause_recased ending head others
      rw [read] at clause
      obtain ⟨reading', read', same⟩ := clause.exists_ok
      rw [readClauses_of_ok (head.kind ▸ notPipe) read']
      exact (induction same.rest).push same.value
  | case5 token rest notPipe failure failed =>
      obtain _ | @⟨_, token', _, rest', head, others⟩ := recased
      have clause := readClause_recased ending head others
      rw [failed] at clause
      obtain ⟨failure', failed', code, column⟩ := clause.exists_error
      rw [readClauses_of_error (head.kind ▸ notPipe) failed']
      exact .error code column

/-! ## Queries -/

/-- Queries of one length, without faults in their texts, whose tokens differ in the case of letters
alone and not in reserved words and fields, are read as clauses that differ in the case of letters
in their texts alone, or are refused for causes of one sort at one place. -/
theorem parse_recased {left right : String} (sameLength : left.length = right.length)
    (whole : (tokens settings left).fault = none) (whole' : (tokens settings right).fault = none)
    (recased : List.Forall₂ (Token.Recased settings) (tokens settings left).tokens
      (tokens settings right).tokens) :
    (∃ clauses clauses', parse settings left = .ok clauses ∧ parse settings right = .ok clauses' ∧
      List.Forall₂ Clause.Recased clauses clauses') ∨
    ∃ diagnostic diagnostic', parse settings left = .error diagnostic ∧
      parse settings right = .error diagnostic' ∧
      diagnostic.cause.code = diagnostic'.cause.code ∧
      diagnostic.column = diagnostic'.column := by
  have agree := readClauses_recased { fault := none, length := left.length } recased
  have onLeft : run settings left =
      readClauses settings { fault := none, length := left.length }
        (tokens settings left).tokens := by
    rw [run, whole, String.length_toList]
  have onRight : run settings right =
      readClauses settings { fault := none, length := left.length }
        (tokens settings right).tokens := by
    rw [run, whole', String.length_toList, sameLength]
  rw [← onLeft, ← onRight] at agree
  cases outcome : (run settings left).outcome with
  | error failure =>
      rw [outcome] at agree
      obtain ⟨failure', outcome', code, column⟩ := agree.exists_error
      exact .inr ⟨failure.diagnose left, failure'.diagnose right, by rw [parse, outcome]; rfl,
        by rw [parse, outcome']; rfl, code, column⟩
  | ok clauses =>
      rw [outcome] at agree
      obtain ⟨clauses', outcome', same⟩ := agree.exists_ok
      exact .inl ⟨clauses, clauses', parse_of_outcome outcome, parse_of_outcome outcome', same⟩

/-- Keywords, an exponent and a text in other letters. -/
theorem parse_recased_keywords :
    "tags NOT In (A) | cost LTE 1E2".length =
        "tags not IN (a) | cost lte 1e2".length ∧
      (tokens (.ofFields ["tags", "cost"])
        "tags NOT In (A) | cost LTE 1E2").fault = none ∧
      (tokens (.ofFields ["tags", "cost"])
        "tags not IN (a) | cost lte 1e2").fault = none ∧
      List.Forall₂ (Token.Recased (.ofFields ["tags", "cost"]))
        (tokens (.ofFields ["tags", "cost"])
          "tags NOT In (A) | cost LTE 1E2").tokens
        (tokens (.ofFields ["tags", "cost"])
          "tags not IN (a) | cost lte 1e2").tokens ∧
      ((∃ clauses clauses',
          parse (.ofFields ["tags", "cost"])
            "tags NOT In (A) | cost LTE 1E2" = .ok clauses ∧
          parse (.ofFields ["tags", "cost"])
            "tags not IN (a) | cost lte 1e2" = .ok clauses' ∧
          List.Forall₂ Clause.Recased clauses clauses') ∨
        ∃ diagnostic diagnostic',
          parse (.ofFields ["tags", "cost"])
            "tags NOT In (A) | cost LTE 1E2" = .error diagnostic ∧
          parse (.ofFields ["tags", "cost"])
            "tags not IN (a) | cost lte 1e2" = .error diagnostic' ∧
          diagnostic.cause.code = diagnostic'.cause.code ∧
          diagnostic.column = diagnostic'.column) := by
  have recased : List.Forall₂ (Token.Recased (.ofFields ["tags", "cost"]))
      (tokens (.ofFields ["tags", "cost"])
        "tags NOT In (A) | cost LTE 1E2").tokens
      (tokens (.ofFields ["tags", "cost"])
        "tags not IN (a) | cost lte 1e2").tokens := by
    decide +kernel
  have sameLength : "tags NOT In (A) | cost LTE 1E2".length =
      "tags not IN (a) | cost lte 1e2".length := by
    decide +kernel
  have whole : (tokens (.ofFields ["tags", "cost"])
      "tags NOT In (A) | cost LTE 1E2").fault = none := by
    decide +kernel
  have whole' : (tokens (.ofFields ["tags", "cost"])
      "tags not IN (a) | cost lte 1e2").fault = none := by
    decide +kernel
  exact ⟨sameLength, whole, whole', recased, parse_recased sameLength whole whole' recased⟩

end Query
end PipeQuery

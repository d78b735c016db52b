import PipeQuery.Proofs.Token.Lookahead
import PipeQuery.Query.Event
import PipeQuery.Query.Reading

/-!
# Parsers on demand

A parser on demand asks a token reader for one token after the other.  A supply records the tokens
that the reader has given away and keeps the log, in which every token is reported when it is made.
Such a parser carries the fact that it takes tokens from the front of those ahead of the reader,
each at the price of a character (`Supply.Draws`), and that it reports nothing but what its scope
admits, the tokens that it makes among it (`Supply.Reports`).  A loop carries the fact that each of
its rounds takes a token, which is why it ends (`OnDemand.Loop.runFrom`).
-/

namespace PipeQuery

open Query

/-- A token reader with the tokens that it has given away and the log. -/
structure Supply where
  /-- The reader. -/
  reader : TokenReader
  /-- The tokens taken, in order. -/
  given : List Token
  /-- What has been reported, in order. -/
  log : List Event

namespace Supply

/-- The supply at the start of a query. -/
def start (tolerant : Bool) (query : String) : Supply :=
  { reader := (TokenReader.ofText query).withTolerance tolerant, given := [], log := [] }

/-- Report an event. -/
def report (event : Event) (supply : Supply) : Supply :=
  { supply with log := supply.log ++ [event] }

/-- The token that an outcome brings, if there is one. -/
def brought : Except LexicalFault (Option Token) → List Token
  | .ok token? => token?.toList
  | .error _ => []

/-- Make the next token, whatever is looked at, and report it. -/
def scan (supply : Supply) : Except LexicalFault (Option Token) × Supply :=
  let (outcome, reader) := supply.reader.scan
  (outcome, { supply with reader, log := supply.log ++ (brought outcome).map .lexed })

/-- Look at the next token. -/
def peek (supply : Supply) : Except LexicalFault (Option Token) × Supply :=
  match supply.reader.lookahead with
  | some token => (.ok (some token), supply)
  | none =>
      match supply.scan with
      | (.ok token?, supply) => (.ok token?, { supply with reader.lookahead := token? })
      | (.error fault, supply) => (.error fault, supply)

/-- Take the next token. -/
def next (supply : Supply) : Except LexicalFault (Option Token) × Supply :=
  match supply.reader.lookahead with
  | some token =>
      (.ok (some token),
        { supply with reader.lookahead := none, given := supply.given ++ [token] })
  | none =>
      let (outcome, supply) := supply.scan
      (outcome, { supply with given := supply.given ++ brought outcome })

/-- The offset of the token looked at, or else of the character that is read next. -/
def column (supply : Supply) : Nat :=
  match supply.reader.lookahead with
  | some token => token.pos
  | none => supply.reader.cursor.position

/-- A token is left. -/
def Continues (supply : Supply) : Prop :=
  supply.reader.atEnd.1 = .ok false

/-- The tokens that have not been made. -/
def unlexed (supply : Supply) : List Token :=
  supply.reader.stream.tokens

/-- The tokens that asking for one makes: none if one is looked at. -/
def made (supply : Supply) : List Token :=
  if supply.reader.lookahead.isSome then [] else brought supply.reader.scan.1

/-- Looking asks the reader. -/
theorem peek_eq (supply : Supply) :
    supply.peek =
      (supply.reader.peek.1,
        { reader := supply.reader.peek.2
          given := supply.given
          log := supply.log ++ supply.made.map .lexed }) := by
  cases waiting : supply.reader.lookahead with
  | some token => simp [peek, TokenReader.peek, made, waiting]
  | none =>
      simp only [peek, TokenReader.peek, made, scan, waiting]
      obtain ⟨outcome, reader⟩ := supply.reader.scan
      cases outcome <;> rfl

/-- Taking asks the reader and keeps what it gives. -/
theorem next_eq (supply : Supply) :
    supply.next =
      (supply.reader.next.1,
        { reader := supply.reader.next.2
          given := supply.given ++ brought supply.reader.next.1
          log := supply.log ++ supply.made.map .lexed }) := by
  cases waiting : supply.reader.lookahead with
  | some token => simp [next, TokenReader.next, made, brought, waiting]
  | none => simp [next, TokenReader.next, made, scan, waiting]

@[simp]
theorem peek_fst (supply : Supply) : supply.peek.1 = supply.reader.peek.1 := by rw [peek_eq]

@[simp]
theorem reader_peek (supply : Supply) : supply.peek.2.reader = supply.reader.peek.2 := by
  rw [peek_eq]

@[simp]
theorem next_fst (supply : Supply) : supply.next.1 = supply.reader.next.1 := by rw [next_eq]

@[simp]
theorem reader_next (supply : Supply) : supply.next.2.reader = supply.reader.next.2 := by
  rw [next_eq]

end Supply

/-! ## What is taken -/

namespace TokenStream

theorem tokens_afterLook (stream : TokenStream) : stream.afterLook.tokens = stream.tokens := by
  obtain ⟨_ | _, _ | _ | _⟩ := stream <;> rfl

/-- What stands first and what is left behind it are the tokens. -/
theorem brought_first (stream : TokenStream) :
    stream.tokens = Supply.brought stream.first ++ stream.afterFirst.tokens := by
  obtain ⟨_ | _, _ | _ | _⟩ := stream <;> rfl

end TokenStream

namespace TokenReader

theorem length_remaining_scan_le (reader : TokenReader) :
    reader.scan.2.cursor.remaining.length ≤ reader.cursor.remaining.length := by
  rw [remaining_scan]
  exact (Scan.rest_suffix _ _ _).length_le

/-- A token that is read takes a character of the text at least. -/
theorem length_remaining_scan_lt {reader : TokenReader} {token : Token}
    (made : reader.scan.1 = .ok (some token)) :
    reader.scan.2.cursor.remaining.length < reader.cursor.remaining.length := by
  rw [remaining_scan]
  exact Scan.length_rest_lt made

theorem pending_peek_le (reader : TokenReader) : reader.peek.2.pending ≤ reader.pending := by
  cases waiting : reader.lookahead with
  | some token =>
      have same : reader.peek.2 = reader := by simp only [peek, waiting]
      exact Nat.le_of_eq (congrArg pending same)
  | none =>
      have shorter := length_remaining_scan_le reader
      have still : reader.scan.2.lookahead = none := waiting
      rw [peek, waiting]
      simp only
      split
      · next token? after scanned =>
          rw [scanned] at shorter
          cases token? with
          | none => simpa [pending, waiting] using shorter
          | some token =>
              have strictly := length_remaining_scan_lt (congrArg Prod.fst scanned)
              rw [scanned] at strictly
              simpa [pending, waiting] using Nat.succ_le_of_lt strictly
      · next fault after scanned =>
          rw [scanned] at shorter still
          have still' : after.lookahead = none := still
          simpa [pending, waiting, still'] using shorter

/-- Looking again finds the same. -/
theorem peek_again {reader after : TokenReader} {token? : Option Token}
    (looked : reader.peek = (.ok token?, after)) : after.peek = (.ok token?, after) := by
  cases waiting : reader.lookahead with
  | some token =>
      rw [peek, waiting] at looked
      cases looked
      rw [peek, waiting]
  | none =>
      rw [peek, waiting] at looked
      simp only at looked
      split at looked
      · next token?' scanned read =>
          cases looked
          cases token? with
          | some token => rfl
          | none =>
              have ended : reader.scan.1 = .ok none := congrArg Prod.fst read
              have left := remaining_scan reader
              rw [Scan.rest_of_end ended, read] at left
              have left' : scanned.cursor.remaining = [] := left
              simp [peek, scan, left', Token.scan]
      · cases looked

theorem pending_next_le (reader : TokenReader) : reader.next.2.pending ≤ reader.pending := by
  cases waiting : reader.lookahead with
  | some token => simp [next, waiting, pending]
  | none =>
      have still : reader.scan.2.lookahead = none := waiting
      simpa [next, waiting, pending, still] using length_remaining_scan_le reader

theorem stream_peek_of_empty {reader : TokenReader} (empty : reader.lookahead = none) :
    reader.peek.2.stream = reader.scan.2.stream := by
  rw [peek, empty]
  simp only
  split
  · next scanned => rw [scanned]; rfl
  · next scanned => rw [scanned]

end TokenReader

namespace Supply

/-- From one moment to another tokens have been taken: they were the first ones ahead, and each has
cost a character of the text or was looked at before. -/
structure Draws (before : Supply) (taken : List Token) (after : Supply) : Prop where
  given : after.given = before.given ++ taken
  ahead : before.reader.ahead.tokens = taken ++ after.reader.ahead.tokens
  pending : after.reader.pending + taken.length ≤ before.reader.pending

namespace Draws

variable {before middle after : Supply} {taken more : List Token}

theorem refl (supply : Supply) : Draws supply [] supply where
  given := (List.append_nil _).symm
  ahead := rfl
  pending := Nat.le_refl _

theorem trans (first : Draws before taken middle) (second : Draws middle more after) :
    Draws before (taken ++ more) after where
  given := by rw [second.given, first.given, List.append_assoc]
  ahead := by rw [first.ahead, second.ahead, List.append_assoc]
  pending := by
    have spentFirst := first.pending
    have spentSecond := second.pending
    rw [List.length_append]
    omega

end Draws

theorem draws_peek (supply : Supply) : Draws supply [] supply.peek.2 where
  given := by
    rw [peek_eq, List.append_nil]
  ahead := by
    rw [reader_peek, (TokenReader.peek_ahead supply.reader).2.1, TokenStream.tokens_afterLook]
    rfl
  pending := by
    rw [reader_peek]
    exact TokenReader.pending_peek_le supply.reader

theorem draws_next (supply : Supply) : Draws supply (brought supply.next.1) supply.next.2 where
  given := by
    rw [next_eq]
  ahead := by
    obtain ⟨found, left, -⟩ := TokenReader.next_ahead supply.reader
    rw [next_fst, reader_next, found, left]
    exact TokenStream.brought_first supply.reader.ahead
  pending := by
    rw [next_fst, reader_next]
    cases outcome : supply.reader.next.1 with
    | error fault => exact TokenReader.pending_next_le supply.reader
    | ok token? =>
        cases token? with
        | none => exact TokenReader.pending_next_le supply.reader
        | some token => exact TokenReader.pending_next_lt outcome

theorem peek_fst_eq_first (supply : Supply) : supply.peek.1 = supply.reader.ahead.first := by
  rw [peek_fst, (TokenReader.peek_ahead supply.reader).1]

theorem next_fst_eq_first (supply : Supply) : supply.next.1 = supply.reader.ahead.first := by
  rw [next_fst, (TokenReader.next_ahead supply.reader).1]

theorem continues_iff {supply : Supply} :
    supply.Continues ↔ supply.reader.ahead.tokens ≠ [] := by
  have looked : supply.reader.atEnd.1 = supply.reader.ahead.first.map Option.isNone := by
    rw [← (TokenReader.peek_ahead supply.reader).1]
    rfl
  rw [Continues, looked]
  obtain ⟨_ | _, _ | _⟩ := supply.reader.ahead <;> simp [TokenStream.first, Except.map]

/-- From one moment to another events have been reported that the scope admits; the tokens among
them were the first ones not made before. -/
structure Reports (scope : Scope) (before : Supply) (events : List Event) (after : Supply) :
    Prop where
  log : after.log = before.log ++ events
  unlexed : before.unlexed = loggedTokens events ++ after.unlexed
  admitted : ∀ event ∈ events, scope.admits event = true

namespace Reports

variable {scope : Scope} {before middle after : Supply} {events more : List Event}

theorem refl (scope : Scope) (supply : Supply) : Reports scope supply [] supply where
  log := (List.append_nil _).symm
  unlexed := rfl
  admitted := nofun

theorem trans (first : Reports scope before events middle)
    (second : Reports scope middle more after) : Reports scope before (events ++ more) after where
  log := by rw [second.log, first.log, List.append_assoc]
  unlexed := by rw [first.unlexed, second.unlexed, loggedTokens_append, List.append_assoc]
  admitted := fun event member =>
    (List.mem_append.mp member).elim (first.admitted event) (second.admitted event)

/-- What a narrow scope admits a wide one admits. -/
theorem widen (reports : Reports .tokens before events after) (scope : Scope) :
    Reports scope before events after where
  log := reports.log
  unlexed := reports.unlexed
  admitted := fun event member => Scope.admits_of_tokens (reports.admitted event member) scope

end Reports

/-- Making tokens reports them. -/
theorem reports_made {before after : Supply} {tokens : List Token}
    (log : after.log = before.log ++ tokens.map .lexed)
    (unlexed : before.unlexed = tokens ++ after.unlexed) (scope : Scope) :
    Reports scope before (tokens.map .lexed) after where
  log := log
  unlexed := by rw [loggedTokens_map_lexed, unlexed]
  admitted := by
    intro event member
    obtain ⟨token, -, rfl⟩ := List.mem_map.mp member
    exact Scope.admits_of_tokens rfl scope

/-- Asking makes the first of the tokens that have not been made, unless one is looked at. -/
theorem unlexed_of_asked {supply after : Supply}
    (same : supply.reader.lookahead.isSome = true → after.reader.stream = supply.reader.stream)
    (scanned : supply.reader.lookahead = none →
      after.reader.stream = supply.reader.scan.2.stream) :
    supply.unlexed = supply.made ++ after.unlexed := by
  unfold unlexed made
  cases waiting : supply.reader.lookahead with
  | some token => rw [same (by rw [waiting]; rfl)]; rfl
  | none =>
      obtain ⟨found, left⟩ := TokenReader.scan_stream supply.reader
      rw [scanned waiting, found, left]
      exact TokenStream.brought_first supply.reader.stream

theorem reports_peek (scope : Scope) (supply : Supply) :
    Reports scope supply (supply.made.map .lexed) supply.peek.2 := by
  refine reports_made (by rw [peek_eq]) (unlexed_of_asked (fun waits => ?_) fun empty => ?_) scope
  · obtain ⟨token, waiting⟩ := Option.isSome_iff_exists.mp waits
    rw [reader_peek, TokenReader.peek, waiting]
  · rw [reader_peek, TokenReader.stream_peek_of_empty empty]

/-- Looking again finds the same and makes nothing. -/
theorem peek_again {supply : Supply} {token? : Option Token} (found : supply.peek.1 = .ok token?) :
    supply.peek.2.peek = (.ok token?, supply.peek.2) := by
  have again : supply.peek.2.reader.peek = (.ok token?, supply.peek.2.reader) := by
    rw [reader_peek]
    exact TokenReader.peek_again (Prod.ext (supply.peek_fst.symm.trans found) rfl)
  have asked := (reports_peek .tokens supply.peek.2).unlexed
  have same : supply.peek.2.peek.2.unlexed = supply.peek.2.unlexed := by
    rw [unlexed, reader_peek, again]
    rfl
  rw [loggedTokens_map_lexed, same, List.self_eq_append_left] at asked
  rw [peek_eq, again, asked, List.map_nil, List.append_nil]

theorem reports_next (scope : Scope) (supply : Supply) :
    Reports scope supply (supply.made.map .lexed) supply.next.2 := by
  refine reports_made (by rw [next_eq]) (unlexed_of_asked (fun waits => ?_) fun empty => ?_) scope
  · obtain ⟨token, waiting⟩ := Option.isSome_iff_exists.mp waits
    rw [reader_next, TokenReader.next, waiting]
    rfl
  · rw [reader_next, TokenReader.next, empty]

/-- From one moment to another tokens have been taken and events reported. -/
structure Passes (scope : Scope) (before after : Supply) : Prop where
  draws : ∃ taken, Draws before taken after
  reports : ∃ events, Reports scope before events after

namespace Passes

variable {scope : Scope} {before middle after : Supply}

theorem refl (scope : Scope) (supply : Supply) : Passes scope supply supply where
  draws := ⟨[], .refl supply⟩
  reports := ⟨[], .refl scope supply⟩

theorem trans (first : Passes scope before middle) (second : Passes scope middle after) :
    Passes scope before after := by
  obtain ⟨⟨taken, draws⟩, events, reports⟩ := first
  obtain ⟨⟨more, drawsMore⟩, eventsMore, reportsMore⟩ := second
  exact ⟨⟨_, draws.trans drawsMore⟩, _, reports.trans reportsMore⟩

theorem widen (passes : Passes .tokens before after) (scope : Scope) :
    Passes scope before after := by
  obtain ⟨draws, events, reports⟩ := passes
  exact ⟨draws, events, reports.widen scope⟩

end Passes

theorem passes_peek (scope : Scope) (supply : Supply) : Passes scope supply supply.peek.2 where
  draws := ⟨_, supply.draws_peek⟩
  reports := ⟨_, supply.reports_peek scope⟩

theorem passes_next (scope : Scope) (supply : Supply) : Passes scope supply supply.next.2 where
  draws := ⟨_, supply.draws_next⟩
  reports := ⟨_, supply.reports_next scope⟩

/-- Reporting something else than a token takes nothing and makes nothing. -/
theorem passes_report {scope : Scope} {event : Event} (supply : Supply)
    (noToken : event.token? = none) (admitted : scope.admits event = true) :
    Passes scope supply (supply.report event) where
  draws := ⟨[], (List.append_nil _).symm, rfl, Nat.le_refl _⟩
  reports := by
    refine ⟨[event], rfl, ?_, fun event' member => ?_⟩
    · simp only [loggedTokens, List.filterMap_cons, noToken, List.filterMap_nil, List.nil_append]
      rfl
    · rw [List.mem_singleton.mp member]
      exact admitted

end Supply

/-! ## Parsers -/

/-- Why a parser stopped; the supply says where if the parser does not. -/
structure Halt where
  /-- The cause. -/
  cause : Cause
  /-- The offset that is to blame. -/
  column? : Option Nat

namespace Halt

/-- The text does not fall into tokens. -/
def lexical (fault : LexicalFault) : Halt :=
  { cause := .lexical fault, column? := fault.column? }

/-- The token is to blame, or the supply says where if there is none. -/
def near (token? : Option Token) (cause : Cause) : Halt :=
  { cause, column? := token?.map Token.pos }

end Halt

/-- A parser on demand.  Whether it succeeds or not, it takes tokens from the front of those ahead
and reports the tokens that it makes and what else its scope admits. -/
structure OnDemand (scope : Scope) (α : Type) where
  /-- What the parser makes of a supply. -/
  run : Supply → Except Halt α × Supply
  /-- What it takes and reports. -/
  orderly : ∀ supply, Supply.Passes scope supply (run supply).2

namespace OnDemand

variable {scope : Scope}

/-- Parsers that do the same are the same. -/
theorem eq_of_run {α : Type} {parser other : OnDemand scope α}
    (same : ∀ supply, parser.run supply = other.run supply) : parser = other := by
  obtain ⟨run, orderly⟩ := parser
  obtain ⟨run', orderly'⟩ := other
  obtain rfl : run = run' := funext same
  rfl

/-- Take no token. -/
def done {α : Type} (value : α) : OnDemand scope α where
  run supply := (.ok value, supply)
  orderly supply := .refl scope supply

/-- Stop. -/
def halt {α : Type} (reason : Halt) : OnDemand scope α where
  run supply := (.error reason, supply)
  orderly supply := .refl scope supply

/-- One parser after the other. -/
def andThen {α β : Type} (parser : OnDemand scope α) (later : α → OnDemand scope β) :
    OnDemand scope β where
  run supply :=
    match parser.run supply with
    | (.ok value, supply) => (later value).run supply
    | (.error reason, supply) => (.error reason, supply)
  orderly supply := by
    have first := parser.orderly supply
    split
    · next value middle ran =>
        rw [ran] at first
        exact first.trans ((later value).orderly middle)
    · next reason after ran =>
        rw [ran] at first
        exact first

instance : Monad (OnDemand scope) where
  pure := done
  bind := andThen

/-- A parser that reports tokens only is one of any scope. -/
def widen {α : Type} (parser : OnDemand .tokens α) : OnDemand scope α where
  run := parser.run
  orderly supply := (parser.orderly supply).widen scope

section Run

variable {α β : Type}

@[simp]
theorem run_widen (parser : OnDemand .tokens α) :
    (parser.widen : OnDemand scope α).run = parser.run :=
  rfl

theorem run_bind (parser : OnDemand scope α) (later : α → OnDemand scope β) (supply : Supply) :
    (parser >>= later).run supply =
      match parser.run supply with
      | (.ok value, supply) => (later value).run supply
      | (.error reason, supply) => (.error reason, supply) :=
  rfl

theorem run_bind_of_ok {parser : OnDemand scope α} {later : α → OnDemand scope β}
    {supply after : Supply} {value : α} (ran : parser.run supply = (.ok value, after)) :
    (parser >>= later).run supply = (later value).run after := by
  rw [run_bind, ran]

theorem run_bind_of_error {parser : OnDemand scope α} {later : α → OnDemand scope β}
    {supply after : Supply} {reason : Halt} (ran : parser.run supply = (.error reason, after)) :
    (parser >>= later).run supply = (.error reason, after) := by
  rw [run_bind, ran]

/-- A parser followed by another one succeeds only if both do. -/
theorem exists_of_run_bind {parser : OnDemand scope α} {later : α → OnDemand scope β}
    {supply after : Supply} {value : β} (ran : (parser >>= later).run supply = (.ok value, after)) :
    ∃ first middle, parser.run supply = (.ok first, middle) ∧
      (later first).run middle = (.ok value, after) := by
  rw [run_bind] at ran
  split at ran
  · next first middle ranFirst => exact ⟨first, middle, ranFirst, ran⟩
  · cases ran

end Run

instance : LawfulMonad (OnDemand scope) := by
  refine LawfulMonad.mk' (OnDemand scope) (fun parser => ?_) (fun _ _ => rfl)
    fun parser later last => ?_
  · refine eq_of_run fun supply => ?_
    change (parser >>= pure).run supply = parser.run supply
    rw [run_bind]
    split
    · next ran => exact ran.symm
    · next ran => exact ran.symm
  · refine eq_of_run fun supply => ?_
    simp only [run_bind]
    cases ran : parser.run supply with
    | mk outcome after => cases outcome <;> rfl

/-! ## Asking for tokens -/

/-- Look at the next token. -/
def peek : OnDemand scope (Option Token) where
  run supply := (supply.peek.1.mapError Halt.lexical, supply.peek.2)
  orderly supply := supply.passes_peek scope

/-- Take the next token. -/
def next : OnDemand scope (Option Token) where
  run supply := (supply.next.1.mapError Halt.lexical, supply.next.2)
  orderly supply := supply.passes_next scope

section Outcome

variable {supply : Supply} {token? : Option Token} {fault : LexicalFault}

theorem run_peek_of_ok (found : supply.peek.1 = .ok token?) :
    (peek : OnDemand scope (Option Token)).run supply = (.ok token?, supply.peek.2) := by
  change (supply.peek.1.mapError Halt.lexical, supply.peek.2) = _
  rw [found]
  rfl

theorem run_next_of_ok (found : supply.next.1 = .ok token?) :
    (next : OnDemand scope (Option Token)).run supply = (.ok token?, supply.next.2) := by
  change (supply.next.1.mapError Halt.lexical, supply.next.2) = _
  rw [found]
  rfl

theorem run_next_of_error (failed : supply.next.1 = .error fault) :
    (next : OnDemand scope (Option Token)).run supply =
      (.error (.lexical fault), supply.next.2) := by
  change (supply.next.1.mapError Halt.lexical, supply.next.2) = _
  rw [failed]
  rfl

end Outcome

/-- Whether a token comes next whose kind is accepted. -/
def upcoming (accepts : TokenKind → Bool) : OnDemand scope Bool := do
  let token? ← peek
  return token?.any (accepts ·.kind)

theorem run_upcoming (accepts : TokenKind → Bool) (supply : Supply) :
    (upcoming accepts : OnDemand scope Bool).run supply =
      ((supply.peek.1.mapError Halt.lexical).map (·.any (accepts ·.kind)), supply.peek.2) := by
  rw [upcoming, run_bind]
  simp only [peek]
  cases supply.peek.1 <;> rfl

/-- Asking again what comes next finds the same. -/
theorem run_upcoming_again {accepts : TokenKind → Bool} {supply after : Supply} {accepted : Bool}
    (ran : (upcoming accepts : OnDemand scope Bool).run supply = (.ok accepted, after)) :
    (upcoming accepts : OnDemand scope Bool).run after = (.ok accepted, after) := by
  rw [run_upcoming] at ran ⊢
  obtain ⟨outcome, rfl⟩ := Prod.mk.inj ran
  cases found : supply.peek.1 with
  | error fault => rw [found] at outcome; cases outcome
  | ok token? =>
      rw [found] at outcome
      rw [Supply.peek_again found, ← outcome]

/-! ## Progress -/

/-- The parser takes a token whenever one is left and it does not stop. -/
def Advances {α : Type} (parser : OnDemand scope α) : Prop :=
  ∀ supply value after, supply.Continues → parser.run supply = (.ok value, after) →
    ∃ token taken, supply.Draws (token :: taken) after

section Advances

variable {α β : Type}

theorem advances_halt (reason : Halt) : (halt reason : OnDemand scope α).Advances := by
  intro supply value after continues ran
  cases ran

theorem advances_next : (next : OnDemand scope (Option Token)).Advances := by
  intro supply token? after continues ran
  obtain rfl : supply.next.2 = after := congrArg Prod.snd ran
  have draws := supply.draws_next
  rw [Supply.next_fst_eq_first] at draws
  rw [Supply.continues_iff] at continues
  obtain ⟨token, later, stands⟩ := List.exists_cons_of_ne_nil continues
  rw [TokenStream.first, stands] at draws
  exact ⟨token, [], draws⟩

/-- What follows a parser that takes a token may take none. -/
theorem Advances.andThen {parser : OnDemand scope α} (advances : parser.Advances)
    (later : α → OnDemand scope β) : (parser >>= later).Advances := by
  intro supply value after continues ran
  obtain ⟨first, middle, ranFirst, ranLater⟩ := exists_of_run_bind ran
  obtain ⟨token, taken, draws⟩ := advances supply first middle continues ranFirst
  obtain ⟨more, drawsMore⟩ := ((later first).orderly middle).draws
  rw [ranLater] at drawsMore
  exact ⟨token, taken ++ more, draws.trans drawsMore⟩

theorem Advances.widen {parser : OnDemand .tokens α} (advances : parser.Advances) :
    (parser.widen : OnDemand scope α).Advances :=
  advances

/-- What is in front of a parser that takes a token may take none. -/
theorem advances_behind (parser : OnDemand scope α) {later : α → OnDemand scope β}
    (advances : ∀ value, (later value).Advances) : (parser >>= later).Advances := by
  intro supply value after continues ran
  obtain ⟨first, middle, ranFirst, ranLater⟩ := exists_of_run_bind ran
  obtain ⟨taken, draws⟩ := (parser.orderly supply).draws
  rw [ranFirst] at draws
  cases taken with
  | nil =>
      have still : middle.Continues := by
        rw [Supply.continues_iff] at continues ⊢
        rwa [draws.ahead] at continues
      obtain ⟨token, more, drawsMore⟩ := advances first middle value after still ranLater
      exact ⟨token, more, draws.trans drawsMore⟩
  | cons token taken =>
      obtain ⟨more, drawsMore⟩ := ((later first).orderly middle).draws
      rw [ranLater] at drawsMore
      exact ⟨token, taken ++ more, draws.trans drawsMore⟩

/-- Looking at a token that is left finds it. -/
theorem exists_of_run_peek {supply after : Supply} {token? : Option Token}
    (continues : supply.Continues)
    (ran : (peek : OnDemand scope (Option Token)).run supply = (.ok token?, after)) :
    ∃ token, token? = some token := by
  have ran' : supply.peek.1.mapError Halt.lexical = .ok token? := congrArg Prod.fst ran
  rw [Supply.peek_fst_eq_first] at ran'
  rw [Supply.continues_iff] at continues
  generalize supply.reader.ahead = stream at continues ran'
  obtain ⟨_ | ⟨token, later⟩, fault⟩ := stream
  · exact absurd rfl continues
  · cases ran'
    exact ⟨token, rfl⟩

theorem advances_peek {later : Option Token → OnDemand scope β}
    (advances : ∀ token, (later (some token)).Advances) : (peek >>= later).Advances := by
  intro supply value after continues ran
  obtain ⟨token?, middle, ranFirst, ranLater⟩ := exists_of_run_bind ran
  obtain ⟨token, rfl⟩ := exists_of_run_peek continues ranFirst
  have draws := supply.draws_peek
  obtain rfl : supply.peek.2 = middle := congrArg Prod.snd ranFirst
  have still : supply.peek.2.Continues := by
    rw [Supply.continues_iff] at continues ⊢
    rwa [draws.ahead] at continues
  obtain ⟨token, more, drawsMore⟩ := advances token _ value after still ranLater
  exact ⟨token, more, draws.trans drawsMore⟩

theorem draws_of_upcoming {accepts : TokenKind → Bool} {supply after : Supply}
    {outcome : Except Halt Bool}
    (ran : (upcoming accepts : OnDemand scope Bool).run supply = (outcome, after)) :
    supply.Draws [] after := by
  rw [run_upcoming] at ran
  obtain rfl : supply.peek.2 = after := congrArg Prod.snd ran
  exact supply.draws_peek

theorem passes_of_upcoming {accepts : TokenKind → Bool} {supply after : Supply}
    {outcome : Except Halt Bool}
    (ran : (upcoming accepts : OnDemand scope Bool).run supply = (outcome, after)) :
    Supply.Passes scope supply after := by
  have passes := (upcoming accepts : OnDemand scope Bool).orderly supply
  rwa [ran] at passes

/-- A token that comes next is left. -/
theorem continues_of_upcoming {accepts : TokenKind → Bool} {supply after : Supply}
    (ran : (upcoming accepts : OnDemand scope Bool).run supply = (.ok true, after)) :
    after.Continues := by
  have same := (draws_of_upcoming ran).ahead
  rw [run_upcoming] at ran
  have accepted := congrArg Prod.fst ran
  rw [Supply.peek_fst_eq_first] at accepted
  rw [Supply.continues_iff]
  rw [List.nil_append] at same
  rw [← same]
  generalize supply.reader.ahead = stream at accepted
  obtain ⟨_ | _, _ | _⟩ := stream
  · cases accepted
  · cases accepted
  · exact List.cons_ne_nil _ _
  · exact List.cons_ne_nil _ _

end Advances

/-! ## Loops -/

/-- A loop goes on as long as a token of an accepted kind comes next, unless a round breaks it off.
Each round takes a token. -/
structure Loop (scope : Scope) (σ : Type) where
  /-- The kinds of tokens at which a round starts. -/
  accepts : TokenKind → Bool
  /-- A round, which may break the loop off. -/
  round : σ → OnDemand scope (Option σ)
  /-- A round takes a token. -/
  advances : ∀ state, (round state).Advances

namespace Loop

variable {σ : Type}

/-- What the loop makes of a supply. -/
def runFrom (loop : Loop scope σ) (state : σ) (supply : Supply) : Except Halt σ × Supply :=
  match _ : (upcoming loop.accepts : OnDemand scope Bool).run supply with
  | (.error reason, after) => (.error reason, after)
  | (.ok false, after) => (.ok state, after)
  | (.ok true, middle) =>
      match _ : (loop.round state).run middle with
      | (.error reason, after) => (.error reason, after)
      | (.ok none, after) => (.ok state, after)
      | (.ok (some state), after) => loop.runFrom state after
  termination_by supply.reader.pending
  decreasing_by
    have continues := continues_of_upcoming ‹_›
    obtain ⟨token, taken, draws⟩ := loop.advances _ _ _ _ continues ‹_›
    have spent := ((draws_of_upcoming ‹_›).trans draws).pending
    simp only [List.nil_append, List.length_cons] at spent
    omega

/-- A round behind the look that starts it. -/
theorem passes_round {loop : Loop scope σ} {state : σ} {supply middle after : Supply}
    {outcome : Except Halt (Option σ)}
    (ran : (upcoming loop.accepts : OnDemand scope Bool).run supply = (.ok true, middle))
    (ranRound : (loop.round state).run middle = (outcome, after)) :
    Supply.Passes scope supply after := by
  have round := (loop.round state).orderly middle
  rw [ranRound] at round
  exact (passes_of_upcoming ran).trans round

theorem passes_runFrom (loop : Loop scope σ) (state : σ) (supply : Supply) :
    Supply.Passes scope supply (loop.runFrom state supply).2 := by
  fun_induction runFrom loop state supply with
  | case1 _ _ _ _ ran => exact passes_of_upcoming ran
  | case2 _ _ _ ran => exact passes_of_upcoming ran
  | case3 _ _ _ ran _ _ ranRound => exact passes_round ran ranRound
  | case4 _ _ _ ran _ ranRound => exact passes_round ran ranRound
  | case5 _ _ _ ran _ _ ranRound induction => exact (passes_round ran ranRound).trans induction

/-- The loop from a state on. -/
def run (loop : Loop scope σ) (state : σ) : OnDemand scope σ where
  run := loop.runFrom state
  orderly := loop.passes_runFrom state

/-- Rounds of a loop lead from a state and a supply to others. -/
inductive Reaches (loop : Loop scope σ) (first : σ) (supply : Supply) : σ → Supply → Prop where
  | start : Reaches loop first supply first supply
  | round {state next : σ} {before middle after : Supply}
      (reached : Reaches loop first supply state before)
      (asked : (upcoming loop.accepts : OnDemand scope Bool).run before = (.ok true, middle))
      (ran : (loop.round state).run middle = (.ok (some next), after)) :
      Reaches loop first supply next after

theorem Reaches.passes {loop : Loop scope σ} {first state : σ} {supply after : Supply}
    (reached : loop.Reaches first supply state after) : Supply.Passes scope supply after := by
  induction reached with
  | start => exact .refl scope supply
  | round reached asked ran induction => exact induction.trans (passes_round asked ran)

/-- A loop ends in a state at a supply, since no token of an accepted kind comes next or a round
breaks it off, or stops there. -/
inductive Stops (loop : Loop scope σ) (state : σ) (before : Supply) :
    Except Halt σ × Supply → Prop where
  | failed {reason : Halt} {after : Supply}
      (asked : (upcoming loop.accepts : OnDemand scope Bool).run before = (.error reason, after)) :
      Stops loop state before (.error reason, after)
  | ended {after : Supply}
      (asked : (upcoming loop.accepts : OnDemand scope Bool).run before = (.ok false, after)) :
      Stops loop state before (.ok state, after)
  | refused {reason : Halt} {middle after : Supply}
      (asked : (upcoming loop.accepts : OnDemand scope Bool).run before = (.ok true, middle))
      (ran : (loop.round state).run middle = (.error reason, after)) :
      Stops loop state before (.error reason, after)
  | broken {middle after : Supply}
      (asked : (upcoming loop.accepts : OnDemand scope Bool).run before = (.ok true, middle))
      (ran : (loop.round state).run middle = (.ok none, after)) :
      Stops loop state before (.ok state, after)

private theorem exists_reaches_of_runFrom {loop : Loop scope σ} {first state : σ}
    {supply before : Supply} (reached : loop.Reaches first supply state before) :
    ∃ last after, loop.Reaches first supply last after ∧
      loop.Stops last after (loop.runFrom state before) := by
  fun_induction runFrom loop state before with
  | case1 _ _ _ _ asked => exact ⟨_, _, reached, .failed asked⟩
  | case2 _ _ _ asked => exact ⟨_, _, reached, .ended asked⟩
  | case3 _ _ _ asked _ _ ran => exact ⟨_, _, reached, .refused asked ran⟩
  | case4 _ _ _ asked _ ran => exact ⟨_, _, reached, .broken asked ran⟩
  | case5 _ _ _ asked _ _ ran induction => exact induction (reached.round asked ran)

/-- A loop ends after some rounds. -/
theorem exists_reaches_run (loop : Loop scope σ) (first : σ) (supply : Supply) :
    ∃ last after, loop.Reaches first supply last after ∧
      loop.Stops last after ((loop.run first).run supply) :=
  exists_reaches_of_runFrom .start

theorem run_eq (loop : Loop scope σ) (state : σ) :
    loop.run state = do
      if ← upcoming loop.accepts then
        match ← loop.round state with
        | some state => loop.run state
        | none => return state
      else return state := by
  refine eq_of_run fun supply => ?_
  change loop.runFrom state supply = _
  rw [runFrom, run_bind]
  split
  · next ran => rw [ran]
  · next ran => rw [ran]; rfl
  · next ran =>
      rw [ran]
      simp only [if_true]
      rw [run_bind]
      split
      · next ranRound => rw [ranRound]
      · next ranRound => rw [ranRound]; rfl
      · next ranRound => rw [ranRound]; rfl

/-- A loop asks itself whether there is a round to start, so nobody has to ask before. -/
theorem run_guarded (loop : Loop scope σ) (state : σ) :
    (do if ← upcoming loop.accepts then loop.run state else return state) = loop.run state := by
  refine eq_of_run fun supply => ?_
  rw [run_bind]
  split
  · next accepted after ran =>
      cases accepted with
      | true =>
          simp only [if_true]
          rw [run_eq, run_bind_of_ok (run_upcoming_again ran), run_bind_of_ok ran]
      | false =>
          rw [run_eq, run_bind_of_ok ran]
          rfl
  · next reason after ran => rw [run_eq, run_bind_of_error ran]

end Loop
end OnDemand
end PipeQuery

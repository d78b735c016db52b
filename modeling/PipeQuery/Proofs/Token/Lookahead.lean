import PipeQuery.Proofs.Token.Fault
import PipeQuery.Proofs.Token.Iteration

/-!
# Looking ahead shows nothing

A fresh reader answers every call as its text and the calls before demand, in whatever order tokens
are looked at, taken and iterated over.  Only taking a token moves on to the next one
(`TokenReader.record_concat`).  Behind the last token a fault is met again and again if the
character to blame stays unread, and once if it used up the text.
-/

namespace PipeQuery

theorem Scan.rest_of_end {tolerant : Bool} {offset : Nat} {text : List Char}
    (ended : (Token.scan tolerant offset text).outcome = .ok none) :
    (Token.scan tolerant offset text).rest = [] := by
  induction text generalizing offset with
  | nil => rfl
  | cons c rest induction =>
      rw [Token.scan] at ended ⊢
      split at ended
      · next blank =>
          rw [if_pos blank]
          exact induction ended
      · exact absurd ended (begin_ne_end tolerant offset c rest)

namespace TokenStream

/-- What stands first: a token, the fault, or the end. -/
def first (stream : TokenStream) : Except LexicalFault (Option Token) :=
  match stream.tokens.head?, stream.fault with
  | some token, _ => .ok (some token)
  | none, some fault => .error fault
  | none, none => .ok none

/-- What is left when the first has been looked at.  An unclosed text that comes first is used up by
that. -/
def afterLook (stream : TokenStream) : TokenStream :=
  match stream.tokens, stream.fault with
  | [], some .unclosedString => { tokens := [], fault := none }
  | _, _ => stream

/-- What is left when the first has been taken. -/
def afterFirst (stream : TokenStream) : TokenStream :=
  match stream.tokens with
  | _ :: later => { stream with tokens := later }
  | [] => stream.afterLook

theorem push_afterFirst {stream : TokenStream} {token : Token} {later : List Token}
    (stands : stream.tokens = token :: later) : stream.afterFirst.push token = stream := by
  obtain ⟨_, fault⟩ := stream
  subst stands
  rfl

theorem afterLook_of_token {stream : TokenStream} {token : Token} {later : List Token}
    (stands : stream.tokens = token :: later) : stream.afterLook = stream := by
  obtain ⟨_, fault⟩ := stream
  subst stands
  rfl

theorem head?_of_first {stream : TokenStream} {token? : Option Token}
    (found : stream.first = .ok token?) : stream.tokens.head? = token? := by
  obtain ⟨_ | _, _ | _⟩ := stream <;> cases found <;> rfl

theorem eq_of_first_end {stream : TokenStream} (ended : stream.first = .ok none) :
    stream = { tokens := [], fault := none } := by
  obtain ⟨_ | _, _ | _⟩ := stream <;> cases ended
  rfl

theorem eq_of_first_error {stream : TokenStream} {fault : LexicalFault}
    (failed : stream.first = .error fault) : stream = { tokens := [], fault := some fault } := by
  obtain ⟨_ | _, _ | _⟩ := stream <;> cases failed
  rfl

theorem tokens_of_first_error {stream : TokenStream} {fault : LexicalFault}
    (failed : stream.first = .error fault) : stream.tokens = [] :=
  congrArg tokens (eq_of_first_error failed)

/-- Looking at nothing but a fault is all that can be done about it. -/
theorem afterFirst_of_no_token {stream : TokenStream} (none : stream.tokens = []) :
    stream.afterFirst = stream.afterLook := by
  simp [afterFirst, none]

end TokenStream

namespace TokenReader

/-! ## What a reader has ahead -/

/-- A scan stops in front of what it leaves of the whole text. -/
theorem position_scan {reader : TokenReader}
    (within : reader.cursor.position ≤ reader.cursor.length) :
    reader.scan.2.cursor.position +
        (Token.scan reader.tolerant reader.cursor.position reader.cursor.remaining).rest.length =
      reader.cursor.length := by
  have counted := Scan.offset_add_length_rest reader.tolerant reader.cursor.position
    reader.cursor.remaining
  rw [Text.Cursor.length_remaining] at counted
  simp only [scan]
  omega

/-- A scan that finds no token has read to the end. -/
theorem position_scan_of_end {reader : TokenReader}
    (within : reader.cursor.position ≤ reader.cursor.length)
    (ended : reader.scan.1 = .ok none) :
    reader.scan.2.cursor.position = reader.cursor.length := by
  have counted := position_scan within
  rw [Scan.rest_of_end ended] at counted
  exact counted

/-- A scan that meets an unclosed text has read to the end. -/
theorem position_scan_of_unclosed {reader : TokenReader}
    (within : reader.cursor.position ≤ reader.cursor.length)
    (failed : reader.scan.1 = .error .unclosedString) :
    reader.scan.2.cursor.position = reader.cursor.length := by
  have counted := position_scan within
  obtain ⟨blanks, c, rest, -, -, -, begun⟩ := Scan.exists_begin_of_fault failed
  have failed' : (Scan.begin reader.tolerant (reader.cursor.position + blanks.length) c
      rest).outcome = .error .unclosedString := by
    rw [← begun]
    exact failed
  rcases Scan.begin_fault_cases failed' with ⟨-, ⟨⟩, -⟩ | ⟨-, -, -, nothing⟩
  rw [begun, nothing] at counted
  exact counted

/-- A scan finds what stands first behind the cursor. -/
theorem scan_stream (reader : TokenReader) :
    reader.scan.1 = reader.stream.first ∧ reader.scan.2.stream = reader.stream.afterFirst := by
  have left : reader.scan.2.stream = TokenStream.readFrom reader.tolerant
      (Token.scan reader.tolerant reader.cursor.position reader.cursor.remaining).offset
      (Token.scan reader.tolerant reader.cursor.position reader.cursor.remaining).rest := by
    rw [stream, remaining_scan]
    rfl
  rw [left]
  simp only [scan, stream]
  cases outcome : (Token.scan reader.tolerant reader.cursor.position
    reader.cursor.remaining).outcome with
  | ok token? =>
      cases token? with
      | some token =>
          rw [TokenStream.readFrom_of_token outcome]
          exact ⟨rfl, rfl⟩
      | none =>
          rw [TokenStream.readFrom_of_end outcome, Scan.rest_of_end outcome]
          exact ⟨rfl, TokenStream.readFrom_nil _ _⟩
  | error fault =>
      rw [TokenStream.readFrom_of_fault outcome]
      refine ⟨rfl, ?_⟩
      obtain ⟨blanks, c, rest, -, notBlank, -, begun⟩ := Scan.exists_begin_of_fault outcome
      rw [begun] at outcome ⊢
      rcases Scan.begin_fault_cases outcome with ⟨-, rfl, same⟩ | ⟨-, -, rfl, nothing⟩
      · apply TokenStream.readFrom_of_fault
        rw [same, Token.scan, notBlank, if_neg Bool.false_ne_true, same]
      · rw [nothing]
        exact TokenStream.readFrom_nil _ _

/-- The tokens that a reader has not given away yet, with the one looked at in front. -/
def ahead (reader : TokenReader) : TokenStream :=
  match reader.lookahead with
  | some token => reader.stream.push token
  | none => reader.stream

section Calls

variable {reader : TokenReader}

theorem ahead_of_empty (empty : reader.lookahead = none) : reader.ahead = reader.stream := by
  rw [ahead, empty]

theorem ahead_of_waiting {token : Token} (waiting : reader.lookahead = some token) :
    reader.ahead = reader.stream.push token := by
  rw [ahead, waiting]

/-- Taking gives what stands first and leaves nothing looked at. -/
theorem next_ahead (reader : TokenReader) :
    reader.next.1 = reader.ahead.first ∧ reader.next.2.ahead = reader.ahead.afterFirst ∧
      reader.next.2.lookahead = none ∧ reader.next.2.stopped = reader.stopped := by
  cases waiting : reader.lookahead with
  | some token =>
      rw [ahead_of_waiting waiting, next, waiting]
      exact ⟨rfl, rfl, rfl, rfl⟩
  | none =>
      obtain ⟨found, left⟩ := scan_stream reader
      have still : reader.scan.2.lookahead = none := waiting
      rw [ahead_of_empty waiting, next, waiting]
      exact ⟨found, (ahead_of_empty still).trans left, still, rfl⟩

private theorem peek_of_empty (empty : reader.lookahead = none) :
    reader.peek =
      (reader.stream.first, { reader.scan.2 with lookahead := reader.stream.tokens.head? }) := by
  obtain ⟨found, -⟩ := scan_stream reader
  have still : reader.scan.2.lookahead = none := empty
  rw [peek, empty]
  simp only
  split
  · next token after scanned =>
      rw [scanned] at found ⊢
      rw [← found, TokenStream.head?_of_first found.symm]
  · next fault after scanned =>
      rw [scanned] at found still ⊢
      rw [← found, TokenStream.tokens_of_first_error found.symm, List.head?_nil, ← still]

/-- Looking gives what stands first and keeps it if it is a token. -/
theorem peek_ahead (reader : TokenReader) :
    reader.peek.1 = reader.ahead.first ∧ reader.peek.2.ahead = reader.ahead.afterLook ∧
      reader.peek.2.lookahead = reader.ahead.tokens.head? ∧
      reader.peek.2.stopped = reader.stopped := by
  cases waiting : reader.lookahead with
  | some token =>
      rw [ahead_of_waiting waiting, peek, waiting]
      exact ⟨rfl, ahead_of_waiting waiting, waiting, rfl⟩
  | none =>
      obtain ⟨-, left⟩ := scan_stream reader
      rw [ahead_of_empty waiting, peek_of_empty waiting]
      refine ⟨rfl, ?_, rfl, rfl⟩
      cases stands : reader.stream.tokens with
      | cons token later =>
          rw [ahead_of_waiting rfl, TokenStream.afterLook_of_token stands]
          exact (congrArg (TokenStream.push token) left).trans (TokenStream.push_afterFirst stands)
      | nil =>
          rw [ahead_of_empty rfl]
          exact left.trans (TokenStream.afterFirst_of_no_token stands)

end Calls

/-! ## Histories of calls -/

/-- The calls by which a reader is asked for tokens. -/
inductive Call where
  /-- Look at the next token. -/
  | peek
  /-- Take the next token. -/
  | next
  /-- Ask whether no token is left. -/
  | atEnd
  /-- Ask for the token looked at. -/
  | current
  /-- Take the next token as an iterator does. -/
  | iterate
  deriving DecidableEq

/-- What a call gives back. -/
inductive Answer where
  /-- A token, the end or a fault. -/
  | token (outcome : Except LexicalFault (Option Token))
  /-- Whether no token is left, or a fault. -/
  | atEnd (outcome : Except LexicalFault Bool)
  /-- The token looked at. -/
  | current (token? : Option Token)

/-- Calls with their answers, the first one first. -/
abbrev History := List (Call × Answer)

/-- Answer a call. -/
def answer (reader : TokenReader) : Call → Answer × TokenReader
  | .peek => (.token reader.peek.1, reader.peek.2)
  | .next => (.token reader.next.1, reader.next.2)
  | .atEnd => (.atEnd reader.atEnd.1, reader.atEnd.2)
  | .current => (.current reader.lookahead, reader)
  | .iterate => (.token reader.iterate.1, reader.iterate.2)

/-- Answer calls one after the other. -/
def record (reader : TokenReader) : List Call → History
  | [] => []
  | call :: calls => (call, (reader.answer call).1) :: (reader.answer call).2.record calls

/-- The tokens that taking alone gives, up to the end or a fault. -/
def takeAll (reader : TokenReader) : TokenStream :=
  match _ : reader.next.1 with
  | .ok (some token) => reader.next.2.takeAll.push token
  | .ok none => { tokens := [], fault := none }
  | .error fault => { tokens := [], fault := some fault }
  termination_by reader.pending
  decreasing_by exact pending_next_lt ‹_›

/-- The call takes a token if there is one. -/
def Call.takes (call : Call) : Bool :=
  call == .next || call == .iterate

/-- The call looks for a token. -/
def Call.looks (call : Call) : Bool :=
  call == .peek || call == .atEnd

/-- The answer is a fault. -/
def Answer.isFault : Answer → Bool
  | token (.error _) | atEnd (.error _) => true
  | _ => false

theorem Answer.isFault_token (outcome : Except LexicalFault (Option Token)) :
    (token outcome).isFault = !outcome.isOk := by
  cases outcome <;> rfl

theorem Answer.isFault_atEnd (outcome : Except LexicalFault (Option Token)) :
    (atEnd (outcome.map Option.isNone)).isFault = !outcome.isOk := by
  cases outcome <;> rfl

namespace History

/-- The call took a token. -/
def consumes : Call × Answer → Bool
  | (call, .token (.ok (some _))) => call.takes
  | _ => false

theorem consumes_of_not_takes {call : Call} (keeps : call.takes = false) (answer : Answer) :
    consumes (call, answer) = false := by
  unfold consumes
  split
  · next given =>
      cases given
      exact keeps
  · rfl

/-- Iteration met a fault. -/
def stops (entry : Call × Answer) : Bool :=
  entry.1 == .iterate && entry.2.isFault

/-- Number of tokens taken. -/
def consumed (history : History) : Nat :=
  history.countP consumes

/-- A token was looked for since the last one was taken. -/
def looked (history : History) : Bool :=
  (history.reverse.takeWhile (!consumes ·)).any (·.1.looks)

/-- A fault was met. -/
def faulted (history : History) : Bool :=
  history.any (·.2.isFault)

/-- Iteration met a fault before. -/
def stopped (history : History) : Bool :=
  history.any stops

section Concat

variable (history : History) (entry : Call × Answer)

theorem consumed_concat :
    consumed (history ++ [entry]) = consumed history + if consumes entry then 1 else 0 := by
  simp [consumed, List.countP_cons]

theorem looked_concat :
    looked (history ++ [entry]) = (!consumes entry && (entry.1.looks || looked history)) := by
  cases taken : consumes entry <;> simp [looked, taken]

theorem faulted_concat : faulted (history ++ [entry]) = (faulted history || entry.2.isFault) := by
  simp [faulted]

theorem stopped_concat : stopped (history ++ [entry]) = (stopped history || stops entry) := by
  simp [stopped]

end Concat
end History
end TokenReader

namespace TokenStream

open TokenReader

/-- What comes next after a history: the first token not taken, or the fault behind the last one.
An unclosed text has used up the rest once it was met. -/
def due (stream : TokenStream) (history : History) : Except LexicalFault (Option Token) :=
  match stream.tokens[history.consumed]?, stream.fault with
  | some token, _ => .ok (some token)
  | none, none => .ok none
  | none, some fault =>
      if history.faulted ∧ fault = .unclosedString then .ok none else .error fault

/-- The answer to a call after a history. -/
def answer (stream : TokenStream) (history : History) : Call → Answer
  | .peek | .next => .token (stream.due history)
  | .atEnd => .atEnd ((stream.due history).map Option.isNone)
  | .current => .current (if history.looked then stream.tokens[history.consumed]? else none)
  | .iterate =>
      .token (if stream.tokens.length ≤ history.consumed ∧ history.stopped then .ok none
        else stream.due history)

/-- What a history leaves of a stream. -/
def remaining (stream : TokenStream) (history : History) : TokenStream where
  tokens := stream.tokens.drop history.consumed
  fault := if history.faulted ∧ stream.fault = some .unclosedString then none else stream.fault

theorem first_remaining (stream : TokenStream) (history : History) :
    (stream.remaining history).first = stream.due history := by
  rw [first, due, remaining, List.head?_drop]
  rcases stream with ⟨tokens, _ | fault⟩ <;> cases tokens[history.consumed]? with
  | some token => rfl
  | none => grind

theorem remaining_concat (stream : TokenStream) (history : History) (entry : Call × Answer) :
    stream.remaining (history ++ [entry]) =
      { tokens := (stream.remaining history).tokens.drop (if History.consumes entry then 1 else 0)
        fault :=
          if entry.2.isFault ∧ (stream.remaining history).fault = some .unclosedString then none
          else (stream.remaining history).fault } := by
  simp only [remaining, History.consumed_concat, History.faulted_concat, List.drop_drop,
    TokenStream.mk.injEq, true_and, Bool.or_eq_true]
  by_cases unclosed : stream.fault = some .unclosedString
  · by_cases met : history.faulted = true <;> simp [unclosed, met]
  · simp [unclosed]

section Due

variable {stream : TokenStream} {history : History}

/-- Looking at what is due leaves what the longer history leaves. -/
theorem afterLook_remaining {entry : Call × Answer} (kept : History.consumes entry = false)
    (met : entry.2.isFault = !(stream.due history).isOk) :
    (stream.remaining history).afterLook = stream.remaining (history ++ [entry]) := by
  rw [remaining_concat, kept, met, ← first_remaining]
  generalize stream.remaining history = left
  obtain ⟨_ | _, _ | _ | _⟩ := left <;> rfl

/-- Taking what is due leaves what the longer history leaves. -/
theorem afterFirst_remaining {call : Call} (takes : call.takes = true) :
    (stream.remaining history).afterFirst =
      stream.remaining (history ++ [(call, .token (stream.due history))]) := by
  rw [remaining_concat, ← first_remaining]
  generalize stream.remaining history = left
  obtain ⟨_ | _, _ | _ | _⟩ := left <;>
    simp [first, afterFirst, afterLook, History.consumes, takes, Answer.isFault]

/-- A fault is due behind the last token only. -/
theorem length_le_consumed_of_fault {fault : LexicalFault}
    (failed : stream.due history = .error fault) : stream.tokens.length ≤ history.consumed := by
  rw [← first_remaining] at failed
  exact List.drop_eq_nil_iff.mp (tokens_of_first_error failed)

theorem getElem?_consumed_of_kept {call : Call} (takes : call.takes = true)
    (kept : History.consumes (call, .token (stream.due history)) = false) :
    stream.tokens[history.consumed]? = none := by
  cases stands : stream.tokens[history.consumed]? with
  | none => rfl
  | some token => simp [History.consumes, due, stands, takes] at kept

end Due
end TokenStream

namespace TokenReader

/-! ## Readers with a history -/

/-- The reader is where a history has left it. -/
structure Follows (reader : TokenReader) (stream : TokenStream) (history : History) : Prop where
  /-- It has ahead what the history leaves. -/
  ahead : reader.ahead = stream.remaining history
  /-- A token waits in it if one was looked for. -/
  lookahead :
    reader.lookahead = if history.looked then stream.tokens[history.consumed]? else none
  /-- It iterates no further if iteration met a fault. -/
  stopped : reader.stopped = history.stopped
  /-- Iteration meets a fault behind the last token only. -/
  spent : history.stopped = true → stream.tokens.length ≤ history.consumed

theorem follows_nil {reader : TokenReader} (ready : reader.Ready) :
    reader.Follows reader.stream [] where
  ahead := ahead_of_empty ready.empty
  lookahead := ready.empty
  stopped := ready.running
  spent := fun never => Bool.noConfusion never

namespace Follows

variable {reader : TokenReader} {stream : TokenStream} {history : History}

theorem first_ahead (follows : reader.Follows stream history) :
    reader.ahead.first = stream.due history := by
  rw [follows.ahead, TokenStream.first_remaining]

/-- An entry that neither takes nor looks nor meets a fault changes nothing. -/
theorem idle (follows : reader.Follows stream history) {entry : Call × Answer}
    (kept : History.consumes entry = false) (blind : entry.1.looks = false)
    (passed : entry.2.isFault = false) : reader.Follows stream (history ++ [entry]) where
  ahead := by
    rw [TokenStream.remaining_concat, kept, passed]
    exact follows.ahead
  lookahead := by
    rw [History.looked_concat, History.consumed_concat, kept, blind]
    exact follows.lookahead
  stopped := by
    rw [History.stopped_concat, History.stops, passed, Bool.and_false, Bool.or_false]
    exact follows.stopped
  spent := by
    rw [History.stopped_concat, History.stops, passed, Bool.and_false, Bool.or_false,
      History.consumed_concat, kept]
    exact follows.spent

/-- Looking shows what is due and keeps it. -/
theorem look (follows : reader.Follows stream history) {entry : Call × Answer}
    (kept : History.consumes entry = false) (looks : entry.1.looks = true)
    (met : entry.2.isFault = !(stream.due history).isOk) :
    reader.peek.2.Follows stream (history ++ [entry]) := by
  obtain ⟨-, left, waiting, same⟩ := peek_ahead reader
  have goesOn : History.stops entry = false := by
    cases call : entry.1 <;> simp_all [History.stops, Call.looks]
  constructor
  · rw [left, follows.ahead]
    exact TokenStream.afterLook_remaining kept met
  · rw [waiting, follows.ahead, History.looked_concat, History.consumed_concat, kept, looks]
    exact List.head?_drop
  · rw [same, History.stopped_concat, goesOn, Bool.or_false]
    exact follows.stopped
  · rw [History.stopped_concat, goesOn, Bool.or_false, History.consumed_concat, kept]
    exact follows.spent

/-- Taking gives what is due and moves on to what comes behind it. -/
theorem take (follows : reader.Follows stream history) {call : Call} (takes : call.takes = true)
    {after : TokenReader} (left : after.ahead = reader.ahead.afterFirst)
    (empty : after.lookahead = none)
    (marked : after.stopped =
      (reader.stopped || History.stops (call, .token (stream.due history)))) :
    after.Follows stream (history ++ [(call, .token (stream.due history))]) := by
  have blind : call.looks = false := by cases call <;> simp_all [Call.takes, Call.looks]
  constructor
  · rw [left, follows.ahead]
    exact TokenStream.afterFirst_remaining takes
  · rw [empty, History.looked_concat, History.consumed_concat, blind, Bool.false_or]
    cases kept : History.consumes (call, .token (stream.due history)) with
    | true => rfl
    | false => simp [TokenStream.getElem?_consumed_of_kept takes kept]
  · rw [marked, History.stopped_concat, follows.stopped]
  · intro stopped
    rw [History.stopped_concat, Bool.or_eq_true] at stopped
    rw [History.consumed_concat]
    rcases stopped with before | now
    · exact Nat.le_add_right_of_le (follows.spent before)
    · cases due : stream.due history with
      | ok token? => simp [due, History.stops, Answer.isFault] at now
      | error fault => exact Nat.le_add_right_of_le (TokenStream.length_le_consumed_of_fault due)

/-- Iterating on takes a token, or marks the reader when it meets a fault. -/
private theorem iterate_of_running (running : reader.stopped = false) :
    reader.iterate =
      (reader.next.1,
        { reader.next.2 with stopped := reader.next.2.stopped || !reader.next.1.isOk }) := by
  rw [iterate, running, if_neg Bool.false_ne_true]
  split
  · next taken => simp [taken, Except.isOk, Except.toBool]
  · next taken => simp [taken, Except.isOk, Except.toBool]

/-- One call is answered as the history demands and goes into it. -/
theorem step (follows : reader.Follows stream history) (call : Call) :
    (reader.answer call).1 = stream.answer history call ∧
      (reader.answer call).2.Follows stream
        (history ++ [(call, stream.answer history call)]) := by
  have due := follows.first_ahead
  cases call with
  | peek =>
      have found : reader.peek.1 = stream.due history := (peek_ahead reader).1.trans due
      exact ⟨congrArg Answer.token found,
        follows.look (History.consumes_of_not_takes rfl _) rfl (Answer.isFault_token _)⟩
  | next =>
      obtain ⟨found, left, empty, same⟩ := next_ahead reader
      exact ⟨congrArg Answer.token (found.trans due),
        follows.take rfl left empty (same.trans (Bool.or_false _).symm)⟩
  | atEnd =>
      have found : reader.peek.1 = stream.due history := (peek_ahead reader).1.trans due
      have answered : (reader.answer .atEnd).1 = stream.answer history .atEnd := by
        rw [TokenStream.answer, ← found]
        rfl
      exact ⟨answered, follows.look rfl rfl (Answer.isFault_atEnd _)⟩
  | current => exact ⟨congrArg Answer.current follows.lookahead, follows.idle rfl rfl rfl⟩
  | iterate =>
      cases running : reader.stopped with
      | true =>
          have stopped : history.stopped = true := follows.stopped.symm.trans running
          have nothing : stream.answer history .iterate = .token (.ok none) := by
            rw [TokenStream.answer, if_pos ⟨follows.spent stopped, stopped⟩]
          rw [nothing, answer, iterate, if_pos running]
          exact ⟨rfl, follows.idle rfl rfl rfl⟩
      | false =>
          obtain ⟨found, left, empty, same⟩ := next_ahead reader
          have goesOn : stream.answer history .iterate = .token (stream.due history) := by
            rw [TokenStream.answer, if_neg]
            rintro ⟨-, stopped⟩
            rw [← follows.stopped, running] at stopped
            cases stopped
          rw [goesOn, answer, iterate_of_running running]
          refine ⟨congrArg Answer.token (found.trans due), follows.take rfl left empty ?_⟩
          rw [← due, ← found, same, History.stops, Answer.isFault_token]
          rfl

end Follows

/-- Every call of a run is answered as the calls before it demand. -/
theorem record_concat_of_follows {reader : TokenReader} {stream : TokenStream}
    {history : History} (follows : reader.Follows stream history) (calls : List Call)
    (call : Call) :
    reader.record (calls ++ [call]) =
      reader.record calls ++ [(call, stream.answer (history ++ reader.record calls) call)] := by
  induction calls generalizing reader history with
  | nil =>
      obtain ⟨answered, -⟩ := follows.step call
      simp [record, answered]
  | cons first calls induction =>
      obtain ⟨answered, follows'⟩ := follows.step first
      simp [record, answered, induction follows']

/-- Taking alone gives the tokens of the text behind the cursor and meets their fault. -/
theorem takeAll_of_empty {reader : TokenReader} (empty : reader.lookahead = none) :
    reader.takeAll = reader.stream := by
  fun_induction takeAll reader with
  | case1 reader token made induction =>
      obtain ⟨found, left, empty', -⟩ := next_ahead reader
      rw [ahead_of_empty empty] at found left
      rw [ahead_of_empty empty'] at left
      obtain ⟨later, stands⟩ :=
        List.head?_eq_some_iff.mp (TokenStream.head?_of_first (found.symm.trans made))
      rw [induction empty', left]
      exact TokenStream.push_afterFirst stands
  | case2 reader ended =>
      have found := (next_ahead reader).1
      rw [ended, ahead_of_empty empty] at found
      exact (TokenStream.eq_of_first_end found.symm).symm
  | case3 reader fault failed =>
      have found := (next_ahead reader).1
      rw [failed, ahead_of_empty empty] at found
      exact (TokenStream.eq_of_first_error found.symm).symm

/-- A fresh reader gives each call the answer that the tokens it gives by taking alone and the
calls before demand. -/
theorem record_concat (cursor : Text.Cursor) (tolerant : Bool) (calls : List Call) (call : Call) :
    ((ofCursor cursor).withTolerance tolerant).record (calls ++ [call]) =
      ((ofCursor cursor).withTolerance tolerant).record calls ++
        [(call, ((ofCursor cursor).withTolerance tolerant).takeAll.answer
          (((ofCursor cursor).withTolerance tolerant).record calls) call)] := by
  have ready : ((ofCursor cursor).withTolerance tolerant).Ready := ⟨rfl, rfl⟩
  rw [takeAll_of_empty ready.empty]
  exact record_concat_of_follows (follows_nil ready) calls call

end TokenReader
end PipeQuery

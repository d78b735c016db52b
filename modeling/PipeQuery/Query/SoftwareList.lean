import PipeQuery.Clause.Keyword
import PipeQuery.Query.Reading

/-!
# Requests for software

The software word is followed by a comparison keyword, an optional opening parenthesis, and either
the name of a list, which starts with an at sign, or entries with commas between them.  An entry is
a name and pairs of a relation and a version.  A closing parenthesis may follow; it must if one was
opened.
-/

namespace PipeQuery
namespace Query

/-- A word that names a list of software kept elsewhere. -/
def isListReference (token : Token) : Bool :=
  token.kind == .ident && token.value.toList.head? == some '@'

/-- The demand that a relation token and the token after it make. -/
def readConstraint (relation version : Token) (unlexed : List Token) :
    Except Failure Constraint :=
  if version.isText then
    match Keyword.relation? relation.value with
    | some kind => .ok { relation := kind, version := version.value }
    | none => .error (.blame relation (.invalidVersionOperator relation.value) unlexed)
  else .error (.blame version .expectedVersion unlexed)

/-- Read entries with commas between them, `current?` being the entry whose demands come next, or
none where a name must come. -/
def readEntries (ending : Ending) (current? : Option Software) :
    List Token → Except Failure (Reading (List Software))
  | [] =>
      match current? with
      | none => .error (ending.refuse .expectedSoftwareName)
      | some current =>
          ending.settle.map fun _ => { value := [current], lookedAhead := true, rest := [] }
  | token :: rest =>
      match current? with
      | none =>
          if token.kind = .comma then readEntries ending none rest
          else if token.isText then readEntries ending (some (.named token.value)) rest
          else .error (.blame token .expectedSoftwareName rest)
      | some current =>
          if token.kind.endsList then
            .ok { value := [current], lookedAhead := true, rest := token :: rest }
          else if token.kind = .comma then
            (readEntries ending none rest).map (Reading.map (current :: ·))
          else
            match rest with
            | [] => .error (ending.refuse .expectedVersion)
            | version :: rest =>
                match readConstraint token version rest with
                | .error failure => .error failure
                | .ok constraint =>
                    readEntries ending
                      (some (current.withVersion constraint.relation constraint.version)) rest

theorem readEntries_none_cons (ending : Ending) (token : Token) (rest : List Token) :
    readEntries ending none (token :: rest) =
      if token.kind = .comma then readEntries ending none rest
      else if token.isText then readEntries ending (some (.named token.value)) rest
      else .error (.blame token .expectedSoftwareName rest) := by
  rw [readEntries.eq_def]

theorem readEntries_some_cons (ending : Ending) (current : Software) (token : Token)
    (rest : List Token) :
    readEntries ending (some current) (token :: rest) =
      if token.kind.endsList then
        .ok { value := [current], lookedAhead := true, rest := token :: rest }
      else if token.kind = .comma then
        (readEntries ending none rest).map (Reading.map (current :: ·))
      else
        match rest with
        | [] => .error (ending.refuse .expectedVersion)
        | version :: rest =>
            match readConstraint token version rest with
            | .error failure => .error failure
            | .ok constraint =>
                readEntries ending
                  (some (current.withVersion constraint.relation constraint.version)) rest := by
  rw [readEntries.eq_def]

/-- Read what stands behind the comparison keyword and the opening parenthesis, if there is one. -/
def readRequested (ending : Ending) (fuzzy opened : Bool) :
    List Token → Except Failure (Reading SoftwareRequest)
  | [] => .error (ending.refuse .expectedSoftwareQuery)
  | token :: rest =>
      if token.isText then
        if isListReference token then
          (readClosing ending opened rest).map
            (Reading.map fun _ => { entries := [], listReference := some token.value, fuzzy })
        else do
          let entries ← readEntries ending none (token :: rest)
          let closing ← readClosing ending opened entries.rest
          return closing.map fun _ =>
            { entries := entries.value, listReference := none, fuzzy }
      else .error (.blame token .expectedSoftwareQuery rest)

/-- Take an opening parenthesis if it comes next. -/
def readOpening : List Token → Bool × List Token
  | [] => (false, [])
  | token :: rest => if token.kind = .openParen then (true, rest) else (false, token :: rest)

/-- Read a request for software behind the software word. -/
def readSoftware (ending : Ending) : List Token → Except Failure (Reading Clause)
  | [] => .error (ending.refuse (.unexpectedOperator none))
  | keyword :: rest =>
      if keyword.isText || keyword.kind = .operator then
        match Keyword.comparison? keyword.value with
        | none => .error (.blame keyword (.unexpectedOperator (some keyword.value)) rest)
        | some comparison =>
            let (opened, rest) := readOpening rest
            (readRequested ending (comparison == .matching) opened rest).map
              (Reading.map .software)
      else .error (.blame keyword (.unexpectedOperator none) rest)

theorem readSoftware_of_comparison {keyword : Token} {comparison : Keyword.Comparison}
    (isKeyword : (keyword.isText || keyword.kind = .operator) = true)
    (compares : Keyword.comparison? keyword.value = some comparison) (ending : Ending)
    (rest : List Token) :
    readSoftware ending (keyword :: rest) =
      (readRequested ending (comparison == .matching) (readOpening rest).1
        (readOpening rest).2).map (Reading.map .software) := by
  rw [readSoftware, if_pos isKeyword, compares]

theorem suffix_of_readEntries {ending : Ending} {current? : Option Software}
    {tokens : List Token} {reading : Reading (List Software)}
    (read : readEntries ending current? tokens = .ok reading) : reading.rest <:+ tokens := by
  fun_induction readEntries ending current? tokens generalizing reading with
  | case1 => cases read
  | case2 =>
      unfold Ending.settle at read
      split at read <;> cases read
      exact List.suffix_refl _
  | case3 _ _ _ induction => exact (induction read).trans (List.suffix_cons _ _)
  | case4 _ _ _ _ induction => exact (induction read).trans (List.suffix_cons _ _)
  | case5 => cases read
  | case6 =>
      cases read
      exact List.suffix_refl _
  | case7 token rest current _ _ induction =>
      cases inner : readEntries ending none rest with
      | error failure => rw [inner] at read; cases read
      | ok entries =>
          rw [inner] at read
          cases read
          exact (induction inner).trans (List.suffix_cons _ _)
  | case8 => cases read
  | case9 => cases read
  | case10 _ _ _ _ _ _ _ _ induction =>
      exact (induction read).trans ((List.suffix_cons _ _).trans (List.suffix_cons _ _))

theorem readRequested_of_entries {ending : Ending} {opened : Bool} {token : Token}
    {rest : List Token} {entries : Reading (List Software)} {closing : Reading Unit}
    (fuzzy : Bool) (isText : token.isText = true) (notReference : isListReference token = false)
    (listed : readEntries ending none (token :: rest) = .ok entries)
    (closed : readClosing ending opened entries.rest = .ok closing) :
    readRequested ending fuzzy opened (token :: rest) =
      .ok (closing.map fun _ => { entries := entries.value, listReference := none, fuzzy }) := by
  simp [readRequested, isText, notReference, listed, closed, bind, Except.bind, pure,
    Except.pure]

/-- A request that is read refers to a list or lists entries, and is closed where it has to be. -/
theorem exists_of_readRequested {ending : Ending} {fuzzy opened : Bool} {tokens : List Token}
    {reading : Reading SoftwareRequest}
    (read : readRequested ending fuzzy opened tokens = .ok reading) :
    ∃ token rest, tokens = token :: rest ∧ token.isText = true ∧
      ((isListReference token = true ∧ ∃ closing, readClosing ending opened rest = .ok closing ∧
          reading = closing.map fun _ =>
            { entries := [], listReference := some token.value, fuzzy }) ∨
        (isListReference token = false ∧ ∃ entries closing,
          readEntries ending none (token :: rest) = .ok entries ∧
          readClosing ending opened entries.rest = .ok closing ∧
          reading = closing.map fun _ =>
            { entries := entries.value, listReference := none, fuzzy })) := by
  unfold readRequested at read
  split at read
  · cases read
  · next token rest =>
      split at read
      · next isText =>
          refine ⟨token, rest, rfl, isText, ?_⟩
          split at read
          · next isReference =>
              obtain ⟨closing, closed, rfl⟩ := exists_of_map_ok read
              exact .inl ⟨isReference, closing, closed, rfl⟩
          · next notReference =>
              cases listed : readEntries ending none (token :: rest) with
              | error failure => rw [listed] at read; cases read
              | ok entries =>
                  rw [listed] at read
                  simp only [bind, Except.bind] at read
                  cases closed : readClosing ending opened entries.rest with
                  | error failure => rw [closed] at read; cases read
                  | ok closing =>
                      rw [closed] at read
                      cases read
                      exact .inr ⟨by simpa using notReference, entries, closing, rfl, closed, rfl⟩
      · cases read

theorem suffix_of_readRequested {ending : Ending} {fuzzy opened : Bool} {tokens : List Token}
    {reading : Reading SoftwareRequest}
    (read : readRequested ending fuzzy opened tokens = .ok reading) :
    reading.rest <:+ tokens := by
  obtain ⟨token, rest, rfl, -, ⟨-, closing, closed, rfl⟩ | ⟨-, entries, closing, listed, closed,
    rfl⟩⟩ := exists_of_readRequested read
  · exact (suffix_of_readClosing closed).trans (List.suffix_cons _ _)
  · exact (suffix_of_readClosing closed).trans (suffix_of_readEntries listed)

theorem suffix_readOpening (tokens : List Token) : (readOpening tokens).2 <:+ tokens := by
  unfold readOpening
  split
  · exact List.suffix_refl _
  · split
    · exact List.suffix_cons _ _
    · exact List.suffix_refl _

/-- A request for software that is read has a comparison keyword and what it asks for. -/
theorem exists_of_readSoftware {ending : Ending} {tokens : List Token} {reading : Reading Clause}
    (read : readSoftware ending tokens = .ok reading) :
    ∃ keyword rest comparison requested, tokens = keyword :: rest ∧
      (keyword.isText || keyword.kind = .operator) = true ∧
      Keyword.comparison? keyword.value = some comparison ∧
      readRequested ending (comparison == .matching) (readOpening rest).1 (readOpening rest).2 =
        .ok requested ∧
      reading = requested.map .software := by
  unfold readSoftware at read
  split at read
  · cases read
  · next keyword rest =>
      split at read
      · next isKeyword =>
          split at read
          · cases read
          · next comparison compares =>
              obtain ⟨requested, readInner, rfl⟩ := exists_of_map_ok read
              exact ⟨keyword, rest, comparison, requested, rfl, isKeyword, compares, readInner,
                rfl⟩
      · cases read

theorem suffix_of_readSoftware {ending : Ending} {tokens : List Token}
    {reading : Reading Clause} (read : readSoftware ending tokens = .ok reading) :
    reading.rest <:+ tokens := by
  obtain ⟨keyword, rest, comparison, requested, rfl, -, -, inner, rfl⟩ :=
    exists_of_readSoftware read
  exact (suffix_of_readRequested inner).trans
    ((suffix_readOpening rest).trans (List.suffix_cons _ _))

end Query
end PipeQuery

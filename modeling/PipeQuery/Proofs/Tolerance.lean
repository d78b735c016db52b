import PipeQuery.Proofs.Reading.Continuation
import PipeQuery.Proofs.Reading.Relocation
import PipeQuery.Proofs.Token.Fault
import PipeQuery.Proofs.Token.Sources

/-!
# Tolerance for unclosed texts

Tolerance matters only to a query that is refused for an unclosed text, and reads it like the query
in which that text is closed (`Query.parse_tolerant`).
-/

namespace PipeQuery

namespace Text.Quoted

/-- The body ends in an escape sign that protects nothing. -/
def dangles : List Char → Bool
  | [] => false
  | ['\\'] => true
  | '\\' :: _ :: rest => dangles rest
  | _ :: rest => dangles rest

/-- The body without an escape sign that protects nothing. -/
def trim (body : List Char) : List Char :=
  if dangles body then body.dropLast else body

theorem ne_nil_of_dangles {body : List Char} (hangs : dangles body = true) : body ≠ [] := by
  rintro rfl
  cases hangs

theorem trim_append (front : List Char) {body : List Char}
    (same : dangles (front ++ body) = dangles body) :
    trim (front ++ body) = front ++ trim body := by
  unfold trim
  rw [same]
  split
  · next hangs => exact List.dropLast_append_of_ne_nil (ne_nil_of_dangles hangs)
  · rfl

theorem dangles_cons {c : Char} (notEscape : c ≠ escapeSign) (body : List Char) :
    dangles (c :: body) = dangles body := by
  rw [dangles.eq_4]
  · exact fun isEscape _ => notEscape isEscape
  · exact fun _ _ isEscape _ => notEscape isEscape

/-- An unclosed body without its dangling escape sign stands for what is read from it. -/
theorem means_trim {body : List Char} (unclosed : (read false body).closed = false) :
    Means (trim body) (read false body).value := by
  fun_induction read false body with
  | case1 => exact .nil
  | case2 => cases unclosed
  | case3 => exact .nil
  | case4 c rest induction =>
      have split : trim ('\\' :: c :: rest) = '\\' :: c :: trim rest :=
        trim_append ['\\', c] rfl
      rw [split]
      exact .escaped c (induction unclosed)
  | case5 c rest notQuote notLast notEscape induction =>
      have different := ne_escapeSign notLast notEscape
      have split : trim (c :: rest) = c :: trim rest :=
        trim_append [c] (dangles_cons different rest)
      rw [split]
      exact .plain notQuote different (induction unclosed)

end Text.Quoted

namespace TokenStream

/-- The text with its unclosed text closed: the closing quote comes behind it, in the place of a
dangling escape sign if there is one. -/
def complete (text : List Char) : List Char :=
  (if Text.Quoted.dangles (unread text).tail then text.dropLast else text) ++ [Text.Quoted.quote]

theorem complete_eq {text front body : List Char}
    (split : text = front ++ Text.Quoted.quote :: body)
    (behind : unread text = Text.Quoted.quote :: body) :
    complete text =
      front ++ Text.Quoted.quote :: (Text.Quoted.trim body ++ [Text.Quoted.quote]) := by
  rw [complete, behind, split, Text.Quoted.trim, List.tail_cons]
  split
  · next hangs =>
      rw [List.dropLast_append_of_ne_nil (List.cons_ne_nil _ _),
        List.dropLast_cons_of_ne_nil (Text.Quoted.ne_nil_of_dangles hangs), List.append_assoc,
        List.cons_append]
  · rw [List.append_assoc, List.cons_append]

/-- A tolerant reading of an unclosed text is a strict one of the completed text. -/
theorem read_complete {text : List Char}
    (unclosed : (read false text).fault = some .unclosedString) :
    read false (complete text) = read true text := by
  obtain ⟨front, body, split, behind, isOpen, again⟩ := exists_of_unclosed unclosed
  have closed := Text.Quoted.read_append_of_means (Text.Quoted.means_trim isOpen) []
  have asWritten := again true body (Bool.or_true _)
    (Text.Quoted.rest_eq_nil_of_not_closed false body isOpen)
  rw [← split] at asWritten
  rw [complete_eq split behind, asWritten, again false _ (by rw [closed]; rfl) (by rw [closed])]
  simp [quotedToken, closed]

end TokenStream

namespace Query

/-- Tolerance shows in the tokens of a query alone. -/
theorem readClauses_withTolerance (settings : Settings) (tolerant : Bool) (ending : Ending)
    (tokens : List Token) :
    readClauses (settings.withTolerance tolerant) ending tokens =
      readClauses settings ending tokens := by
  have sameClause : ∀ token rest, readClause (settings.withTolerance tolerant) ending token rest =
      readClause settings ending token rest := fun _ _ => rfl
  fun_induction readClauses settings ending tokens with
  | case1 _ settled => rw [readClauses, settled]
  | case2 failure settled => rw [readClauses, settled]
  | case3 token rest isPipe induction => rw [readClauses_pipe _ _ _ isPipe, induction]
  | case4 token rest notPipe reading read induction =>
      rw [readClauses_of_ok notPipe ((sameClause token rest).trans read), induction]
  | case5 token rest notPipe failure failed =>
      rw [readClauses_of_error notPipe ((sameClause token rest).trans failed)]

theorem relocate_of_grammatical {cause : Cause} (grammatical : cause.isLexical = false)
    (place : Nat → Nat) : cause.relocate place = cause := by
  cases cause with
  | lexical => cases grammatical
  | _ => rfl

/-- With its tokens at other places a query without a fault is refused for the same causes. -/
theorem mapError_cause_relocate {settings : Settings} {ending : Ending}
    (whole : ending.fault = none) (place : Nat → Nat) (tokens : List Token) :
    (readClauses settings (ending.relocate place)
        (tokens.map (Token.relocate place))).outcome.mapError Failure.cause =
      (readClauses settings ending tokens).outcome.mapError Failure.cause := by
  rw [readClauses_relocate, outcome_relocate]
  cases outcome : (readClauses settings ending tokens).outcome with
  | ok clauses => rfl
  | error failure =>
      exact congrArg Except.error (relocate_of_grammatical (isLexical_of_whole whole outcome) place)

/-- Where a query without a fault ends does not matter to the causes for which it is refused. -/
theorem mapError_cause_congr {settings : Settings} {ending ending' : Ending} (tokens : List Token)
    (whole : ending.fault = none) (whole' : ending'.fault = none) :
    (readClauses settings ending tokens).outcome.mapError Failure.cause =
      (readClauses settings ending' tokens).outcome.mapError Failure.cause := by
  have same : ending.relocate (fun _ => 0) = ending'.relocate fun _ => 0 := by
    simp [Ending.relocate, whole, whole']
  rw [← mapError_cause_relocate whole fun _ => 0, same, mapError_cause_relocate whole']

section Tolerance

variable {settings : Settings} {query : String}

/-- The query with its unclosed text closed. -/
def complete (query : String) : String :=
  String.ofList (TokenStream.complete query.toList)

theorem run_withTolerance (settings : Settings) (tolerant : Bool) (query : String) :
    run (settings.withTolerance tolerant) query =
      readClauses settings
        { fault := (TokenStream.read tolerant query.toList).fault, length := query.toList.length }
        (TokenStream.read tolerant query.toList).tokens :=
  readClauses_withTolerance settings tolerant _ _

theorem mapError_cause_parse (settings : Settings) (query : String) :
    (parse settings query).mapError Diagnostic.cause =
      (run settings query).outcome.mapError Failure.cause := by
  rw [parse]
  cases (run settings query).outcome <;> rfl

/-- A query that is not refused for an unclosed text is read in the same way with tolerance. -/
theorem parse_tolerant_of_ne
    (other : ∀ diagnostic, parse (settings.withTolerance false) query = .error diagnostic →
      diagnostic.cause ≠ .lexical .unclosedString) :
    parse (settings.withTolerance true) query = parse (settings.withTolerance false) query := by
  simp only [parse, run_withTolerance] at other ⊢
  by_cases unclosed : (TokenStream.read false query.toList).fault = some .unclosedString
  · obtain ⟨token, tolerated⟩ := TokenStream.exists_read_of_unclosed unclosed
    have faulty : (Ending.mk (TokenStream.read false query.toList).fault
        query.toList.length).fault = some .unclosedString := unclosed
    obtain ⟨failure, failed, settled | same⟩ := outcome_of_fault faulty settings
      (TokenStream.read false query.toList).tokens
    · obtain ⟨fault, found, rfl⟩ := exists_of_settle settled
      obtain rfl := Option.some.inj (unclosed.symm.trans found)
      exact absurd rfl (other _ (by rw [failed]; rfl))
    · rw [tolerated, same, failed]
      rfl
  · rw [TokenStream.read_tolerant (.inr unclosed)]

/-- A query that is refused for an unclosed text is read like the completed one with tolerance. -/
theorem parse_tolerant_of_unclosed {diagnostic : Diagnostic}
    (refused : parse (settings.withTolerance false) query = .error diagnostic)
    (unclosed : diagnostic.cause = .lexical .unclosedString) :
    (∀ diagnostic', parse (settings.withTolerance true) query = .error diagnostic' →
      diagnostic'.cause ≠ .lexical .unclosedString) ∧
    (parse (settings.withTolerance true) query).mapError Diagnostic.cause =
      (parse (settings.withTolerance false) (complete query)).mapError Diagnostic.cause := by
  obtain ⟨failure, failed, rfl⟩ := exists_failure_of_parse refused
  have isUnclosed : failure.cause = .lexical .unclosedString := unclosed
  rw [run_withTolerance] at failed
  obtain ⟨fault, found, rfl⟩ :=
    exists_of_settle (settle_of_lexical failed (by rw [isUnclosed]; rfl))
  obtain rfl := Cause.lexical.inj isUnclosed
  obtain ⟨token, tolerated⟩ := TokenStream.exists_read_of_unclosed found
  have whole : (TokenStream.read true query.toList).fault = none := by rw [tolerated]
  constructor
  · intro diagnostic' refused' again
    obtain ⟨failure', failed', rfl⟩ := exists_failure_of_parse refused'
    rw [run_withTolerance] at failed'
    have grammatical := isLexical_of_whole whole failed'
    rw [show failure'.cause = .lexical .unclosedString from again] at grammatical
    cases grammatical
  · rw [mapError_cause_parse, mapError_cause_parse, run_withTolerance, run_withTolerance, complete,
      String.toList_ofList, TokenStream.read_complete found]
    exact mapError_cause_congr _ whole whole

end Tolerance

/-- Tolerance changes nothing for a query that is read, or refused for another reason than an
unclosed text.  A query that is refused for an unclosed text is read like the completed one, and
never refused for an unclosed text. -/
theorem parse_tolerant (settings : Settings) (query : String) :
    match parse (settings.withTolerance false) query with
    | .error { cause := .lexical .unclosedString, .. } =>
        (∀ diagnostic, parse (settings.withTolerance true) query = .error diagnostic →
          diagnostic.cause ≠ .lexical .unclosedString) ∧
        (parse (settings.withTolerance true) query).mapError Diagnostic.cause =
          (parse (settings.withTolerance false) (complete query)).mapError Diagnostic.cause
    | outcome => parse (settings.withTolerance true) query = outcome := by
  split
  · next refused => exact parse_tolerant_of_unclosed refused rfl
  · next other =>
      apply parse_tolerant_of_ne
      rintro ⟨cause, column, excerpt⟩ refused unclosed
      obtain rfl : cause = .lexical .unclosedString := unclosed
      exact other _ _ refused

/-- The escape sign would protect a quote behind it. -/
example : complete "id = \"a\\\" b\\" = "id = \"a\\\" b\"" := by decide +kernel

end Query
end PipeQuery

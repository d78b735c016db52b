import PipeQuery.Proofs.LexicalFaults

/-!
# The excerpt of a refusal

A query is refused within it or at its end.  The excerpt shows the characters on either side of that
column, and in the line below them a caret stands as many characters behind the first one of these
as the column does (`Query.parse_excerpt`).  The characters are shown as they are, so the excerpt
has one more line for each line feed among them, and only without any does the caret stand under the
column.
-/

namespace PipeQuery

/-- The lines of a text. -/
def Text.lines (text : String) : List (List Char) :=
  text.toList.splitOn '\n'

/-- The characters of a text that stand around a column. -/
def window (source : List Char) (column : Nat) : List Char :=
  (source.take (min source.length (column + 20))).drop (column - 20)

/-- A caret with spaces in front. -/
def caretLine (spaces : Nat) : List Char :=
  List.replicate spaces ' ' ++ ['^']

/-! ## Lines -/

theorem Text.length_splitOn (separator : Char) (text : List Char) :
    (text.splitOn separator).length = text.count separator + 1 := by
  induction text with
  | nil => rfl
  | cons c text induction =>
      rw [List.splitOn_cons_eq_if_modifyHead, List.count_cons]
      split <;> simp [induction]

theorem lines_excerpt (source : List Char) (column : Nat) :
    Text.lines (excerpt source column) =
      (window source column).splitOn '\n' ++ [caretLine (min column 20)] := by
  have reach : source.take (column + 20) = source.take (min source.length (column + 20)) := by
    rw [Nat.min_comm, List.take_eq_take_min]
  have spaces : column - (column - 20) = min column 20 := by omega
  have plain : '\n' ∉ caretLine (min column 20) := by
    simp [caretLine]
  have text : (excerpt source column).toList =
      window source column ++ '\n' :: caretLine (min column 20) := by
    simp only [excerpt, excerptRadius, String.toList_ofList, reach, spaces, window, caretLine,
      List.append_assoc, List.cons_append]
  rw [Text.lines, text, List.splitOn_append_cons_self, List.splitOn_eq_singleton plain]

/-- The excerpt has two lines unless a line feed is shown. -/
theorem lines_excerpt_eq_pair_iff (source : List Char) (column : Nat) :
    Text.lines (excerpt source column) = [window source column, caretLine (min column 20)] ↔
      '\n' ∉ window source column := by
  rw [lines_excerpt]
  constructor
  · intro pair
    have lengths := congrArg List.length pair
    rw [List.length_append, Text.length_splitOn] at lengths
    simp only [List.length_cons, List.length_nil] at lengths
    exact List.count_eq_zero.mp (by omega)
  · intro single
    rw [List.splitOn_eq_singleton single]
    rfl

/-! ## The place of the caret -/

variable {source : List Char} {column : Nat}

theorem getElem?_window (source : List Char) (column : Nat) :
    (window source column)[min column 20]? = source[column]? := by
  have place : column - 20 + min column 20 = column := by omega
  rw [window, List.getElem?_drop, place, List.getElem?_take]
  split
  · rfl
  · exact (List.getElem?_eq_none (by omega)).symm

theorem length_window (inside : column ≤ source.length) :
    (window source column).length =
      min column 20 + min (source.length - column) 20 := by
  simp only [window, List.length_drop, List.length_take]
  omega

/-! ## The place of a refusal -/

namespace TokenStream

theorem pos_le_of_mem_read {tolerant : Bool} {text : List Char} {token : Token}
    (member : token ∈ (read tolerant text).tokens) : token.pos ≤ text.length := by
  have strict : ∀ earlier ∈ (read false text).tokens, earlier.pos ≤ text.length := by
    intro earlier member
    have within := pos_lt_of_mem_readFrom member
    omega
  by_cases unclosed : (read false text).fault = some .unclosedString
  · cases tolerant with
    | false => exact strict token member
    | true =>
        obtain ⟨front, body, split, -, isOpen, again⟩ := exists_of_unclosed unclosed
        have last := Text.Quoted.rest_eq_nil_of_not_closed false body isOpen
        have whole := again true body (Bool.or_true _) last
        rw [← split] at whole
        rw [whole] at member
        rcases List.mem_append.mp member with earlier | isLast
        · exact strict token earlier
        · obtain rfl := List.mem_singleton.mp isLast
          simp [split, quotedToken]
  · rw [read_tolerant (.inr unclosed)] at member
    exact strict token member

theorem column_fault_le {tolerant : Bool} {text : List Char} {fault : LexicalFault}
    (found : (read tolerant text).fault = some fault) :
    fault.column text.length ≤ text.length := by
  obtain ⟨offset, stands, -⟩ := exists_faultAt found
  cases stands with
  | control split => simp [split]
  | quote => exact Nat.le_refl _

end TokenStream

namespace Query

variable {settings : Settings} {query : String} {diagnostic : Diagnostic}

/-- A query is refused within it or at its end. -/
theorem column_le_length (refused : parse settings query = .error diagnostic) :
    diagnostic.column ≤ query.length := by
  obtain ⟨failure, failed, rfl⟩ := exists_failure_of_parse refused
  rw [← String.length_toList]
  change failure.column ≤ query.toList.length
  cases blames_of_readClauses failed with
  | lexical _ settled =>
      obtain ⟨fault, found, rfl⟩ := exists_of_settle settled
      exact TokenStream.column_fault_le found
  | atEnd column => exact Nat.le_of_eq column
  | atToken before token after split column =>
      have member : token ∈ (TokenStream.read settings.tolerant query.toList).tokens := by
        change token ∈ (tokens settings query).tokens
        rw [split]
        simp
      rw [column]
      exact TokenStream.pos_le_of_mem_read member

/-- The excerpt of a refusal shows the characters around its column and below them a caret, which
stands where the column does among these characters, or behind them all if the column is the end of
the query.  This makes two lines if and only if no line feed is among the characters; otherwise
the caret comes below the last of their lines. -/
theorem parse_excerpt (refused : parse settings query = .error diagnostic) :
    diagnostic.column ≤ query.length ∧
      Text.lines diagnostic.excerpt =
        (window query.toList diagnostic.column).splitOn '\n' ++
          [caretLine (min diagnostic.column 20)] ∧
      (Text.lines diagnostic.excerpt =
          [window query.toList diagnostic.column, caretLine (min diagnostic.column 20)] ↔
        '\n' ∉ window query.toList diagnostic.column) ∧
      (window query.toList diagnostic.column)[min diagnostic.column 20]? =
        query.toList[diagnostic.column]? ∧
      (diagnostic.column = query.length →
        (window query.toList diagnostic.column).length = min diagnostic.column 20) := by
  have inside := column_le_length refused
  obtain ⟨failure, -, rfl⟩ := exists_failure_of_parse refused
  refine ⟨inside, lines_excerpt _ _, lines_excerpt_eq_pair_iff _ _, getElem?_window _ _, ?_⟩
  intro atEnd
  have within : (failure.diagnose query).column ≤ query.toList.length := by
    rwa [String.length_toList]
  rw [length_window within, atEnd, String.length_toList]
  omega

/-- A query that is longer than an excerpt on both sides of the place where it is refused. -/
def longQuery : String :=
  "severity > 1 | severity > 2 | severity > oops | group cvss"

theorem parse_excerpt_middle :
    parse (.ofFields ["severity"]) longQuery =
        .error (.locate (.notANumber "severity" "oops") 41 longQuery.toList) ∧
      41 ≤ longQuery.length ∧
      Text.lines (excerpt longQuery.toList 41) =
        (window longQuery.toList 41).splitOn '\n' ++ [caretLine 20] ∧
      (Text.lines (excerpt longQuery.toList 41) = [window longQuery.toList 41, caretLine 20] ↔
        '\n' ∉ window longQuery.toList 41) ∧
      (window longQuery.toList 41)[20]? = longQuery.toList[41]? ∧
      (41 = longQuery.length → (window longQuery.toList 41).length = 20) := by
  have refused : parse (.ofFields ["severity"]) longQuery =
      .error (.locate (.notANumber "severity" "oops") 41 longQuery.toList) := by
    decide +kernel
  exact ⟨refused, parse_excerpt refused⟩

/-- A query of two lines.  The column is that of the first character of its second line, but the
caret stands in a third line, further to the right than the second one reaches. -/
theorem parse_excerpt_two_lines :
    parse (.ofFields ["id"]) "id = a |\nfoo = b" =
        .error (.locate (.invalidField "foo") 9 "id = a |\nfoo = b".toList) ∧
      Text.lines (excerpt "id = a |\nfoo = b".toList 9) =
        ["id = a |".toList, "foo = b".toList, "         ^".toList] ∧
      ∀ first second, Text.lines (excerpt "id = a |\nfoo = b".toList 9) ≠ [first, second] := by
  have lines : Text.lines (excerpt "id = a |\nfoo = b".toList 9) =
      ["id = a |".toList, "foo = b".toList, "         ^".toList] := by
    rw [lines_excerpt]
    decide +kernel
  refine ⟨by decide +kernel, lines, ?_⟩
  intro first second pair
  rw [lines] at pair
  cases pair

end Query
end PipeQuery

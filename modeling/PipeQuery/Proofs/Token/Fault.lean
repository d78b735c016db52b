import PipeQuery.Proofs.Token.Resumption

/-!
# Where reading tokens ends

Reading tokens ends in front of the first character, blanks apart, that no token takes: a control
character, the quote that opens a text without a closing one, or none.  The tokens in front of it
stay the same with anything in its place that begins like it
(`TokenStream.exists_front_of_unread`).
-/

namespace PipeQuery

namespace Scan

/-- A token cannot begin at a control character, nor a strict one at the quote of an unclosed
text. -/
theorem begin_fault_cases {tolerant : Bool} {offset : Nat} {c : Char} {rest : List Char}
    {fault : LexicalFault} (failed : (begin tolerant offset c rest).outcome = .error fault) :
    (Text.isControl c = true ∧ fault = .unlexable c offset ∧
        ∀ tolerant, begin tolerant offset c rest =
          { outcome := .error (.unlexable c offset), offset, rest := c :: rest }) ∨
      (c = Text.Quoted.quote ∧ (Text.Quoted.read false rest).closed = false ∧
        fault = .unclosedString ∧ (begin tolerant offset c rest).rest = []) := by
  unfold begin at failed ⊢
  split at failed
  iterate 4 cases failed
  · right
    simp only [quoted] at failed ⊢
    split at failed
    · cases failed
    · next refused =>
        have unclosed : (Text.Quoted.read false rest).closed = false := by simp_all
        cases failed
        exact ⟨rfl, unclosed, rfl, Text.Quoted.rest_eq_nil_of_not_closed false rest unclosed⟩
  · left
    split at failed
    · unfold comparison at failed
      split at failed
      · split at failed <;> cases failed
      · cases failed
    · next notComparison =>
        split at failed
        · next isControl =>
            cases failed
            simp [notComparison, isControl]
        · cases failed

theorem scan_quote (tolerant : Bool) (offset : Nat) (body : List Char) :
    Token.scan tolerant offset (Text.Quoted.quote :: body) = quoted tolerant (offset + 1) body :=
  rfl

/-- A scan that meets a fault has passed over blanks and begins at the fault. -/
theorem exists_begin_of_fault {tolerant : Bool} {offset : Nat} {text : List Char}
    {fault : LexicalFault} (failed : (Token.scan tolerant offset text).outcome = .error fault) :
    ∃ blanks c rest, Text.Blank blanks ∧ Text.isBlank c = false ∧ text = blanks ++ c :: rest ∧
      Token.scan tolerant offset text = begin tolerant (offset + blanks.length) c rest := by
  induction text generalizing offset with
  | nil => cases failed
  | cons c rest induction =>
      by_cases isBlank : Text.isBlank c = true
      · rw [Token.scan, if_pos isBlank] at failed ⊢
        obtain ⟨blanks, c', rest', blank, notBlank, rfl, begun⟩ := induction failed
        refine ⟨c :: blanks, c', rest', List.forall_mem_cons.mpr ⟨isBlank, blank⟩, notBlank, rfl,
          ?_⟩
        rw [begun, List.length_cons, Nat.add_assoc, Nat.add_comm 1]
      · rw [Token.scan, if_neg isBlank]
        exact ⟨[], c, rest, Text.blank_nil, by simpa using isBlank, rfl, rfl⟩

end Scan

namespace TokenStream

theorem readFrom_nil (tolerant : Bool) (offset : Nat) :
    readFrom tolerant offset [] = { tokens := [], fault := none } :=
  readFrom_of_end rfl

/-- The end of a text that no token takes, without the blanks in front of it. -/
def unreadFrom (offset : Nat) (text : List Char) : List Char :=
  match _ : (Token.scan false offset text).outcome with
  | .ok (some _) =>
      unreadFrom (Token.scan false offset text).offset (Token.scan false offset text).rest
  | _ => text.dropWhile Text.isBlank
  termination_by text.length
  decreasing_by exact Scan.length_rest_lt ‹_›

/-- The end of a whole text that no token takes. -/
def unread (text : List Char) : List Char :=
  unreadFrom 0 text

/-- A text that starts at an offset begins with a fault, or is empty and has none. -/
inductive Faulty (offset : Nat) : Option LexicalFault → List Char → Prop where
  | nil : Faulty offset none []
  | control {c : Char} {rest : List Char} (isControl : Text.isControl c = true)
      (again : ∀ tolerant, Token.scan tolerant offset (c :: rest) =
        { outcome := .error (.unlexable c offset), offset, rest := c :: rest }) :
      Faulty offset (some (.unlexable c offset)) (c :: rest)
  | unclosed {body : List Char} (unclosed : (Text.Quoted.read false body).closed = false) :
      Faulty offset (some .unclosedString) (Text.Quoted.quote :: body)

theorem unreadFrom_of_token {offset : Nat} {text : List Char} {token : Token}
    (made : (Token.scan false offset text).outcome = .ok (some token)) :
    unreadFrom offset text =
      unreadFrom (Token.scan false offset text).offset (Token.scan false offset text).rest := by
  rw [unreadFrom]
  split
  · rfl
  · next none => exact absurd made (none token)

theorem unreadFrom_of_end {offset : Nat} {text : List Char}
    (ended : (Token.scan false offset text).outcome = .ok none) : unreadFrom offset text = [] := by
  rw [unreadFrom]
  split
  · next made => rw [made] at ended; cases ended
  · rw [← List.append_nil text]
    exact Text.dropWhile_append_of_stop (Scan.blank_of_end ended) nofun

/-- Where no token can begin all but the blanks is unread. -/
theorem unreadFrom_of_fault {offset : Nat} {blanks rest : List Char} {c : Char}
    {fault : LexicalFault} (blank : Text.Blank blanks) (notBlank : Text.isBlank c = false)
    (failed : (Token.scan false offset (blanks ++ c :: rest)).outcome = .error fault) :
    unreadFrom offset (blanks ++ c :: rest) = c :: rest := by
  rw [unreadFrom]
  split
  · next made => rw [made] at failed; cases failed
  · exact Text.dropWhile_append_of_stop blank (by simpa using notBlank)

theorem Faulty.of_begin {tolerant : Bool} {offset : Nat} {c : Char} {rest : List Char}
    {fault : LexicalFault} (notBlank : Text.isBlank c = false)
    (failed : (Scan.begin tolerant offset c rest).outcome = .error fault) :
    Faulty offset (some fault) (c :: rest) := by
  rcases Scan.begin_fault_cases failed with ⟨isControl, rfl, again⟩ | ⟨rfl, unclosed, rfl, -⟩
  · refine .control isControl fun tolerant => ?_
    rw [Token.scan, notBlank, if_neg Bool.false_ne_true]
    exact again tolerant
  · exact .unclosed unclosed

/-- Reading a text takes its tokens in front of the unread end, and the same tokens in front of
anything that may replace that end. -/
theorem exists_front_of_unread (offset : Nat) (text : List Char) :
    ∃ front, text = front ++ unreadFrom offset text ∧
      Faulty (offset + front.length) (readFrom false offset text).fault (unreadFrom offset text) ∧
      ∀ tolerant more, Scan.Replaces (unreadFrom offset text) more →
        readFrom tolerant offset (front ++ more) =
          (readFrom tolerant (offset + front.length) more).prepend
            (readFrom false offset text).tokens := by
  fun_induction readFrom false offset text with
  | case1 offset text token made induction =>
      obtain ⟨source, split, width, again⟩ := Scan.exists_front_of_scan made
      obtain ⟨front, split', faulty, onward⟩ := induction
      rw [unreadFrom_of_token made]
      refine ⟨source ++ front, ?_, ?_, ?_⟩
      · rw [List.append_assoc, ← split']
        exact split
      · rw [List.length_append, ← Nat.add_assoc, ← width]
        exact faulty
      · intro tolerant more replaces
        have kept : Scan.Replaces (Token.scan false offset text).rest (front ++ more) := by
          rw [split']
          exact replaces.append front
        have scanned := again tolerant (front ++ more) kept
        rw [List.append_assoc, readFrom_of_token (by rw [scanned]), scanned,
          onward tolerant more replaces, List.length_append, ← Nat.add_assoc, ← width]
        rfl
  | case2 offset text ended =>
      rw [unreadFrom_of_end ended]
      exact ⟨text, (List.append_nil text).symm, .nil, fun tolerant more _ =>
        readFrom_append_of_blank (Scan.blank_of_end ended) tolerant offset more⟩
  | case3 offset text fault failed =>
      obtain ⟨blanks, c, rest, blank, notBlank, rfl, begun⟩ := Scan.exists_begin_of_fault failed
      rw [unreadFrom_of_fault blank notBlank failed]
      rw [begun] at failed
      exact ⟨blanks, rfl, .of_begin notBlank failed, fun tolerant more _ =>
        readFrom_append_of_blank blank tolerant offset more⟩

/-! ## Tolerance -/

/-- Where reading tokens meets a fault, it takes none. -/
theorem readFrom_of_faulty {tolerant : Bool} {offset : Nat} {fault? : Option LexicalFault}
    {text : List Char} (faulty : Faulty offset fault? text)
    (met : tolerant = false ∨ fault? ≠ some .unclosedString) :
    readFrom tolerant offset text = { tokens := [], fault := fault? } := by
  cases faulty with
  | nil => exact readFrom_nil tolerant offset
  | control isControl again => exact readFrom_of_fault (by rw [again])
  | unclosed unclosed =>
      obtain rfl : tolerant = false := met.resolve_right fun other => other rfl
      apply readFrom_of_fault
      rw [Scan.scan_quote]
      simp [Scan.quoted, unclosed]

/-- The token that a quoted text makes, its quote standing at the offset. -/
def quotedToken (offset : Nat) (body : List Char) : Token where
  kind := .string
  value := String.ofList (Text.Quoted.read false body).value
  pos := offset + 1

/-- A quoted text at the end is a token if it is closed or need not be. -/
theorem readFrom_quote {tolerant : Bool} {body : List Char}
    (taken : ((Text.Quoted.read false body).closed || tolerant) = true)
    (last : (Text.Quoted.read false body).rest = []) (offset : Nat) :
    readFrom tolerant offset (Text.Quoted.quote :: body) =
      { tokens := [quotedToken offset body], fault := none } := by
  have made : (Token.scan tolerant offset (Text.Quoted.quote :: body)).outcome =
      .ok (some (quotedToken offset body)) := by
    rw [Scan.scan_quote]
    simp [Scan.quoted, taken, quotedToken]
  rw [readFrom_of_token made, Scan.scan_quote]
  simp only [Scan.quoted, last, readFrom_nil, push]

variable {text : List Char}

/-- Tolerance changes nothing in a text unless a quoted text in it is unclosed. -/
theorem read_tolerant {tolerant : Bool}
    (met : tolerant = false ∨ (read false text).fault ≠ some .unclosedString) :
    read tolerant text = read false text := by
  obtain ⟨front, split, faulty, onward⟩ := exists_front_of_unread 0 text
  have ended := onward tolerant _ (.refl _)
  rw [← split, readFrom_of_faulty faulty met] at ended
  rw [read, ended, prepend, List.append_nil]
  rfl

/-- An unclosed text is one more token in a tolerant reading, and so is any body in its place that
is the last thing read. -/
theorem exists_of_unclosed (unclosed : (read false text).fault = some .unclosedString) :
    ∃ front body, text = front ++ Text.Quoted.quote :: body ∧
      unread text = Text.Quoted.quote :: body ∧ (Text.Quoted.read false body).closed = false ∧
      ∀ tolerant body', ((Text.Quoted.read false body').closed || tolerant) = true →
        (Text.Quoted.read false body').rest = [] →
        read tolerant (front ++ Text.Quoted.quote :: body') =
          { tokens := (read false text).tokens ++ [quotedToken front.length body']
            fault := none } := by
  obtain ⟨front, split, faulty, onward⟩ := exists_front_of_unread 0 text
  have fault : (readFrom false 0 text).fault = some .unclosedString := unclosed
  rw [fault, Nat.zero_add] at faulty
  generalize behind : unreadFrom 0 text = left at split faulty onward
  cases faulty with
  | @unclosed body isOpen =>
      refine ⟨front, body, split, behind, isOpen, fun tolerant body' taken last => ?_⟩
      have replaces : Scan.Replaces (Text.Quoted.quote :: body) (Text.Quoted.quote :: body') :=
        fun _ first => .inr first
      rw [read, onward tolerant _ replaces, Nat.zero_add, readFrom_quote taken last]
      rfl

/-- A tolerant reading takes an unclosed text for one more token. -/
theorem exists_read_of_unclosed (unclosed : (read false text).fault = some .unclosedString) :
    ∃ token, read true text = { tokens := (read false text).tokens ++ [token], fault := none } := by
  obtain ⟨front, body, split, -, isOpen, again⟩ := exists_of_unclosed unclosed
  have last := Text.Quoted.rest_eq_nil_of_not_closed false body isOpen
  refine ⟨quotedToken front.length body, ?_⟩
  rw [← again true body (Bool.or_true _) last, ← split]

/-- A fault that is met has nothing to do with tolerance. -/
theorem read_of_fault {tolerant : Bool} {fault : LexicalFault}
    (found : (read tolerant text).fault = some fault) : read tolerant text = read false text := by
  apply read_tolerant
  cases tolerant with
  | false => exact .inl rfl
  | true =>
      refine .inr fun unclosed => ?_
      obtain ⟨token, whole⟩ := exists_read_of_unclosed unclosed
      rw [whole] at found
      cases found

end TokenStream
end PipeQuery

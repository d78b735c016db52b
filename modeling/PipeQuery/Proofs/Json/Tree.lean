import PipeQuery.Json.Reading
import PipeQuery.Json.Writing
import PipeQuery.Proofs.Json.Lexeme

/-!
# Trees are read as they are written

In either layout the lexemes of a written tree are read back one after the other, and together they
bring the reader to where a complete value does.  So every tree whose numerals are proper is read
back from its text (`Json.read?_write`).
-/

namespace PipeQuery
namespace Json

/-- All numerals of a tree are proper. -/
inductive Legible : Json → Prop where
  | null : Legible .null
  | bool (value : Bool) : Legible (.bool value)
  | number {value : Numeral} (proper : value.IsProper) : Legible (.number value)
  | string (value : Option String) : Legible (.string value)
  | array {items : List Json} (each : ∀ item ∈ items, Legible item) : Legible (.array items)
  | object {members : List (Option String × Json)}
      (each : ∀ member ∈ members, Legible member.2) : Legible (.object members)

/-! ## Blanks of a layout -/

open Text (Blank blank_nil)

theorem blank_line (layout : Layout) (depth : Nat) : Blank (layout.line depth) := by
  cases layout with
  | compact => exact blank_nil
  | pretty =>
      intro c member
      rcases List.mem_cons.mp member with rfl | member
      · rfl
      · obtain rfl := List.eq_of_mem_replicate member
        rfl

theorem blank_space (layout : Layout) : Blank layout.space := by
  cases layout with
  | compact => exact blank_nil
  | pretty =>
      intro c member
      obtain rfl := List.mem_singleton.mp member
      rfl

/-! ## Placed lexemes -/

/-- The lexemes that are read from the text of placed lexemes are these. -/
def Respelled (lexemes : List Placed) : Prop :=
  lexemes? (spell lexemes) = some (lexemes.map Prod.snd)

/-- The text of placed lexemes does not prolong a numeral in front of it. -/
def Delimits (lexemes : List Placed) : Prop :=
  Numeral.Stops (spell lexemes)

namespace Lexeme

private theorem notBlank_of_number {first : Char} (begins : first.isDigit = true ∨ first = '-') :
    Text.isBlank first = false := by
  apply Bool.eq_false_iff.mpr
  intro isBlank
  rcases Text.isBlank_iff.mp isBlank with rfl | rfl | rfl | rfl <;> exact absurd begins (by decide)

/-- A lexeme starts with something other than a blank. -/
theorem exists_text {lexeme : Lexeme} {rest : List Char} (legible : lexeme.Legible rest) :
    ∃ first others, lexeme.text = first :: others ∧ Text.isBlank first = false := by
  cases lexeme with
  | number value =>
      obtain ⟨first, others, written, begins⟩ := legible.1.exists_text
      exact ⟨first, others, written, notBlank_of_number begins⟩
  | bool value => cases value <;> exact ⟨_, _, rfl, rfl⟩
  | string value => cases value <;> exact ⟨_, _, rfl, rfl⟩
  | _ => exact ⟨_, _, rfl, rfl⟩

end Lexeme

theorem spell_cons (blanks : List Char) (lexeme : Lexeme) (more : List Placed) :
    spell ((blanks, lexeme) :: more) = blanks ++ (lexeme.text ++ spell more) := by
  simp [spell]

theorem respelled_nil : Respelled [] := by
  simp [Respelled, spell, lexemes?]

theorem respelled_cons {blanks : List Char} {lexeme : Lexeme} {more : List Placed}
    (blank : Blank blanks) (legible : lexeme.Legible (spell more)) (respelled : Respelled more) :
    Respelled ((blanks, lexeme) :: more) := by
  obtain ⟨first, others, written, notBlank⟩ := Lexeme.exists_text legible
  have read := Lexeme.read?_text_append legible
  rw [Respelled, spell_cons, lexemes?_blanks blank, List.map_cons]
  rw [written, List.cons_append] at read ⊢
  rw [lexemes?_of_read? notBlank read, respelled]
  rfl

/-- Blanks and a mark that can stand in no numeral delimit. -/
theorem delimits_cons {blanks : List Char} (blank : Blank blanks) {lexeme : Lexeme}
    (isMark : lexeme = .comma ∨ lexeme = .closeBracket ∨ lexeme = .closeBrace)
    (more : List Placed) : Delimits ((blanks, lexeme) :: more) := by
  rw [Delimits, spell_cons]
  cases blanks with
  | nil =>
      rcases isMark with rfl | rfl | rfl <;>
        refine Numeral.stops_cons ?_ ?_ ?_ _ <;> decide
  | cons c blanks =>
      rcases Text.isBlank_iff.mp (blank c List.mem_cons_self) with rfl | rfl | rfl | rfl <;>
        refine Numeral.stops_cons ?_ ?_ ?_ _ <;> decide

/-! ## Values, items and members -/

/-- A tree comes back from its placed lexemes. -/
structure ComesBack (layout : Layout) (tree : Json) : Prop where
  /-- Its lexemes are read from its text. -/
  respelled : ∀ {blanks : List Char} (depth : Nat) {more : List Placed}, Blank blanks →
    Respelled more → Delimits more → Respelled (placed layout blanks depth tree ++ more)
  /-- Its lexemes make it complete. -/
  complete : ∀ (blanks : List Char) (depth : Nat) (unfinished : List Unfinished)
    (closable : Bool), Progress.after? { unfinished, expected := .value closable }
      ((placed layout blanks depth tree).map Prod.snd) = Progress.complete? tree unfinished

variable {layout : Layout}

/-- A value of one lexeme comes back. -/
private theorem comesBack_of_lexeme {tree : Json} {lexeme : Lexeme}
    (alone : ∀ blanks depth, placed layout blanks depth tree = [(blanks, lexeme)])
    (legible : ∀ more, Delimits more → lexeme.Legible (spell more))
    (next : ∀ unfinished closable, Progress.next? { unfinished, expected := .value closable }
      lexeme = Progress.complete? tree unfinished) : ComesBack layout tree where
  respelled _ _ blank respelled delimits := by
    rw [alone]
    exact respelled_cons blank (legible _ delimits) respelled
  complete blanks depth unfinished closable := by
    rw [alone]
    simp [Progress.after?, next]

private theorem respelled_placedItems {items : List Json}
    (each : ∀ item ∈ items, ComesBack layout item) (depth : Nat) {more : List Placed}
    (respelled : Respelled more) (delimits : Delimits more) :
    Respelled (placedItems layout depth items ++ more) ∧
      Delimits (placedItems layout depth items ++ more) := by
  induction items with
  | nil => exact ⟨respelled, delimits⟩
  | cons item items induction =>
      obtain ⟨first, later⟩ := List.forall_mem_cons.mp each
      obtain ⟨respelled, delimits⟩ := induction later
      rw [placedItems, List.cons_append, List.cons_append, List.append_assoc]
      constructor
      · exact respelled_cons blank_nil trivial
          (first.respelled depth (blank_line layout depth) respelled delimits)
      · exact delimits_cons blank_nil (.inl rfl) _

private theorem respelled_placedMembers {members : List (Option String × Json)}
    (each : ∀ member ∈ members, ComesBack layout member.2) (depth : Nat) {more : List Placed}
    (respelled : Respelled more) (delimits : Delimits more) :
    Respelled (placedMembers layout depth members ++ more) ∧
      Delimits (placedMembers layout depth members ++ more) := by
  induction members with
  | nil => exact ⟨respelled, delimits⟩
  | cons member members induction =>
      obtain ⟨key, value⟩ := member
      obtain ⟨first, later⟩ := List.forall_mem_cons.mp each
      obtain ⟨respelled, delimits⟩ := induction later
      simp only [placedMembers, List.cons_append, List.append_assoc]
      constructor
      · exact respelled_cons blank_nil trivial <|
          respelled_cons (blank_line layout depth) trivial <|
          respelled_cons blank_nil trivial <|
          first.respelled depth (blank_space layout) respelled delimits
      · exact delimits_cons blank_nil (.inl rfl) _

private theorem after?_cons {progress next : Progress} {lexeme : Lexeme}
    (moves : progress.next? lexeme = some next) (lexemes : List Lexeme) :
    progress.after? (lexeme :: lexemes) = next.after? lexemes := by
  simp [Progress.after?, moves]

private theorem after?_placedItems {items : List Json}
    (each : ∀ item ∈ items, ComesBack layout item) (depth : Nat) (done : List Json)
    (outer : List Unfinished) :
    Progress.after? { unfinished := .array done :: outer, expected := .separator }
        ((placedItems layout depth items).map Prod.snd) =
      some { unfinished := .array (items.reverse ++ done) :: outer, expected := .separator } := by
  induction items generalizing done with
  | nil => rfl
  | cons item items induction =>
      obtain ⟨first, later⟩ := List.forall_mem_cons.mp each
      simp only [placedItems, List.cons_append, List.map_cons, List.map_append]
      rw [after?_cons rfl, Progress.after?_append, first.complete, Progress.complete?,
        Option.bind_some, induction later]
      simp

private theorem after?_placedMembers {members : List (Option String × Json)}
    (each : ∀ member ∈ members, ComesBack layout member.2) (depth : Nat)
    (done : List (Option String × Json)) (outer : List Unfinished) :
    Progress.after? { unfinished := .object done :: outer, expected := .separator }
        ((placedMembers layout depth members).map Prod.snd) =
      some {
        unfinished := .object (members.reverse ++ done) :: outer
        expected := .separator } := by
  induction members generalizing done with
  | nil => rfl
  | cons member members induction =>
      obtain ⟨key, value⟩ := member
      obtain ⟨first, later⟩ := List.forall_mem_cons.mp each
      simp only [placedMembers, List.cons_append, List.map_cons, List.map_append]
      rw [after?_cons rfl, after?_cons rfl, after?_cons rfl, Progress.after?_append,
        first.complete, Progress.complete?, Option.bind_some, induction later]
      simp

private theorem comesBack_array {items : List Json}
    (each : ∀ item ∈ items, ComesBack layout item) : ComesBack layout (.array items) := by
  cases items with
  | nil =>
      constructor
      · intro blanks depth more blank respelled delimits
        exact respelled_cons blank trivial (respelled_cons blank_nil trivial respelled)
      · intro blanks depth unfinished closable
        cases closable <;>
          simp [placed, Progress.after?, Progress.next?, Progress.openArray, Progress.closeArray?]
  | cons item items =>
      obtain ⟨first, later⟩ := List.forall_mem_cons.mp each
      constructor
      · intro blanks depth more blank respelled delimits
        have closed : Respelled ((layout.line depth, .closeBracket) :: more) :=
          respelled_cons (blank_line layout depth) trivial respelled
        obtain ⟨respelled, delimits⟩ := respelled_placedItems later (depth + 1) closed
          (delimits_cons (blank_line layout depth) (.inr (.inl rfl)) more)
        simp only [placed, List.cons_append, List.append_assoc, List.nil_append]
        exact respelled_cons blank trivial
          (first.respelled (depth + 1) (blank_line layout (depth + 1)) respelled delimits)
      · intro blanks depth unfinished closable
        have opened : Progress.next? { unfinished, expected := .value closable } .openBracket =
            some (.openArray unfinished) := by
          cases closable <;> rfl
        simp only [placed, List.cons_append, List.map_cons, List.map_append]
        rw [after?_cons opened, Progress.openArray, Progress.after?_append,
          Progress.after?_append, first.complete, Progress.complete?, Option.bind_some,
          after?_placedItems later]
        simp [Progress.after?, Progress.next?, Progress.closeArray?]

private theorem comesBack_object {members : List (Option String × Json)}
    (each : ∀ member ∈ members, ComesBack layout member.2) :
    ComesBack layout (.object members) := by
  cases members with
  | nil =>
      constructor
      · intro blanks depth more blank respelled delimits
        exact respelled_cons blank trivial (respelled_cons blank_nil trivial respelled)
      · intro blanks depth unfinished closable
        cases closable <;>
          simp [placed, Progress.after?, Progress.next?, Progress.openObject,
            Progress.closeObject?]
  | cons member members =>
      obtain ⟨key, value⟩ := member
      obtain ⟨first, later⟩ := List.forall_mem_cons.mp each
      constructor
      · intro blanks depth more blank respelled delimits
        have closed : Respelled ((layout.line depth, .closeBrace) :: more) :=
          respelled_cons (blank_line layout depth) trivial respelled
        obtain ⟨respelled, delimits⟩ := respelled_placedMembers later (depth + 1) closed
          (delimits_cons (blank_line layout depth) (.inr (.inr rfl)) more)
        simp only [placed, List.cons_append, List.append_assoc, List.nil_append]
        exact respelled_cons blank trivial <|
          respelled_cons (blank_line layout (depth + 1)) trivial <|
          respelled_cons blank_nil trivial <|
          first.respelled (depth + 1) (blank_space layout) respelled delimits
      · intro blanks depth unfinished closable
        have opened : Progress.next? { unfinished, expected := .value closable } .openBrace =
            some (.openObject unfinished) := by
          cases closable <;> rfl
        simp only [placed, List.cons_append, List.map_cons, List.map_append]
        rw [after?_cons opened, Progress.openObject, after?_cons rfl, after?_cons rfl,
          Progress.after?_append, Progress.after?_append, first.complete, Progress.complete?,
          Option.bind_some, after?_placedMembers later]
        simp [Progress.after?, Progress.next?, Progress.closeObject?]

theorem comesBack_of_legible {tree : Json} (legible : tree.Legible) : ComesBack layout tree := by
  induction legible with
  | null => exact comesBack_of_lexeme (fun _ _ => rfl) (fun _ _ => trivial) (fun _ _ => rfl)
  | bool value =>
      exact comesBack_of_lexeme (fun _ _ => rfl) (fun _ _ => trivial) (fun _ _ => rfl)
  | number proper =>
      exact comesBack_of_lexeme (fun _ _ => rfl) (fun _ delimits => ⟨proper, delimits⟩)
        (fun _ _ => rfl)
  | string value =>
      exact comesBack_of_lexeme (fun _ _ => rfl) (fun _ _ => trivial) (fun _ _ => rfl)
  | array _ induction => exact comesBack_array induction
  | object _ induction => exact comesBack_object induction

/-- A tree of proper numerals is read back from its text in either layout. -/
theorem read?_write (layout : Layout) {tree : Json} (legible : tree.Legible) :
    read? (tree.write layout) = some tree := by
  have back : ComesBack layout tree := comesBack_of_legible legible
  have respelled := back.respelled 0 blank_nil respelled_nil Numeral.stops_nil
  have complete := back.complete [] 0 [] false
  rw [List.append_nil, Respelled] at respelled
  rw [read?, write, String.toList_ofList, respelled, Option.bind_some, ofLexemes?, Progress.start,
    complete]
  rfl

end Json
end PipeQuery

import PipeQuery.Pattern.Escape

/-!
# Classes in brackets

A class stands in brackets: characters, ranges of characters, classes with names and further
brackets, one after the other or with operators between them.  Of a class that is read only its
depth is kept, that is, how deeply brackets, operators and rows of members are nested in it.  The
main statement here is that reading a class takes at least one character
(`Bracket.length_rest_read?`).
-/

namespace PipeQuery
namespace Pattern

/-- A bracket of which a part has been read. -/
structure Bracket where
  /-- Number of members since the last operator. -/
  members : Nat
  /-- The greatest depth of these members. -/
  depth : Nat
  /-- The depth of what stands in front of the last operator. -/
  operand : Option Nat
  deriving DecidableEq, Repr

namespace Bracket

/-- Nothing has been read. -/
def empty : Bracket :=
  { members := 0, depth := 0, operand := none }

/-- Put a member behind the others. -/
def add (bracket : Bracket) (depth : Nat) : Bracket :=
  { bracket with members := bracket.members + 1, depth := max bracket.depth depth }

/-- The depth of the members since the last operator; two and more of them form a row. -/
def rowDepth (bracket : Bracket) : Nat :=
  if 2 ≤ bracket.members then bracket.depth + 1 else bracket.depth

/-- The depth of everything within the bracket. -/
def innerDepth (bracket : Bracket) : Nat :=
  match bracket.operand with
  | some depth => max depth bracket.rowDepth + 1
  | none => bracket.rowDepth

/-- The depth of the bracket when it is closed. -/
def closedDepth (bracket : Bracket) : Nat :=
  bracket.innerDepth + 1

/-- Put an operator behind everything that has been read. -/
def operate (bracket : Bracket) : Bracket :=
  { members := 0, depth := 0, operand := some bracket.innerDepth }

/-- The words that name classes. -/
def classWords : List String :=
  ["alnum", "alpha", "ascii", "blank", "cntrl", "digit", "graph", "lower", "print", "punct",
    "space", "upper", "word", "xdigit"]

/-- A word that names a class, with a colon and the closing bracket behind it: what follows. -/
def word? (text : List Char) : Option (List Char) :=
  match text.dropWhile (· != ':') with
  | ':' :: ']' :: rest =>
      if classWords.contains (String.ofList (text.takeWhile (· != ':'))) then some rest else none
  | _ => none

/-- A class named by a word between colons, behind its opening bracket: whether it is a complement,
and what follows it. -/
def wordClass? : List Char → Option (Bool × List Char)
  | ':' :: '^' :: text => (word? text).map (true, ·)
  | ':' :: text => (word? text).map (false, ·)
  | _ => none

/-- A character or an escape that may be a member of a class. -/
def item? (mode : Mode) : List Char → Option (Escape × List Char)
  | [] => none
  | '\\' :: rest => Escape.read? mode rest
  | c :: rest => some (.character c false, rest)

/-- An escape may be a member of a class. -/
def allowsItem (mode : Mode) : Escape → Bool
  | .character c _ => mode.allowsMember c
  | .letterClass negated => mode.allowsLetterClass negated
  | .border | .wordBoundary => false

/-- Two escapes may be the ends of a range. -/
def allowsRange (mode : Mode) : Escape → Escape → Bool
  | .character first _, .character last _ =>
      first ≤ last && mode.allowsMember first && mode.allowsMember last
  | _, _ => false

/-- A dash makes a range of what stands around it, unless the bracket or another dash follows. -/
def makesRange (mode : Mode) (rest : List Char) : Bool :=
  mode.glance rest != some ']' && mode.glance rest != some '-'

/-- Pass over a member of a class: a character, an escape or a range. -/
def member? (mode : Mode) (text : List Char) : Option (List Char) :=
  match item? mode text with
  | none => none
  | some (first, rest) =>
      match mode.skip rest with
      | [] => none
      | '-' :: more =>
          if makesRange mode more then
            match item? mode (mode.skip more) with
            | some (last, rest) => if allowsRange mode first last then some rest else none
            | none => none
          else if allowsItem mode first then some ('-' :: more)
          else none
      | more => if allowsItem mode first then some more else none

/-- Take the dashes in front of the other members, of which a closing bracket may be the first.
Nothing is left to pass over in front of the text. -/
def dashes? (mode : Mode) (bracket : Bracket) : List Char → Option (Bracket × List Char)
  | [] => none
  | '-' :: rest =>
      if mode.allowsMember '-' then dashes? mode (bracket.add 0) (mode.skip rest) else none
  | ']' :: rest =>
      if bracket.members = 0 then
        if mode.allowsMember ']' && !(mode.skip rest).isEmpty then
          some (bracket.add 0, mode.skip rest)
        else none
      else some (bracket, ']' :: rest)
  | rest => some (bracket, rest)
termination_by text => text.length
decreasing_by exact Nat.lt_succ_of_le (mode.length_skip_le rest)

/-- The first members of a class, behind its opening bracket. -/
def start? (mode : Mode) (text : List Char) : Option (Bracket × List Char) :=
  match mode.skip text with
  | '^' :: rest =>
      if mode.allowsComplement then dashes? mode empty (mode.skip rest) else none
  | rest => dashes? mode empty rest

theorem length_word? {text rest : List Char} (found : word? text = some rest) :
    rest.length < text.length := by
  have suffix := (List.dropWhile_suffix (l := text) (· != ':')).length_le
  unfold word? at found
  split at found
  · next same =>
      rw [same] at suffix
      split at found
      · simp only [Option.some.injEq] at found
        rw [← found]
        simp only [List.length_cons] at suffix
        omega
      · cases found
  · cases found

theorem length_rest_wordClass? {text rest : List Char} {negated : Bool}
    (found : wordClass? text = some (negated, rest)) : rest.length < text.length := by
  unfold wordClass? at found
  split at found
  case h_1 | h_2 =>
    simp only [Option.map_eq_some_iff, Prod.mk.injEq] at found
    obtain ⟨_, word_found, _, rfl⟩ := found
    have := length_word? word_found
    simp only [List.length_cons]
    omega
  · cases found

theorem length_rest_item? {mode : Mode} {text rest : List Char} {escape : Escape}
    (found : item? mode text = some (escape, rest)) : rest.length < text.length := by
  unfold item? at found
  split at found
  · cases found
  · exact Nat.lt_succ_of_lt (Escape.length_rest_read? found)
  · simp only [Option.some.injEq, Prod.mk.injEq] at found
    simp [found.2]

theorem length_member? {mode : Mode} {text rest : List Char}
    (found : member? mode text = some rest) : rest.length < text.length := by
  unfold member? at found
  split at found
  · cases found
  · next behind first_found =>
      have first_shorter := length_rest_item? first_found
      have skip_shorter := mode.length_skip_le behind
      split at found
      · cases found
      · next more skipped =>
          rw [skipped] at skip_shorter
          split at found
          · split at found
            · next last_found =>
                have last_shorter := length_rest_item? last_found
                have := mode.length_skip_le more
                split at found
                · simp only [Option.some.injEq] at found
                  rw [← found]
                  simp only [List.length_cons] at skip_shorter
                  omega
                · cases found
            · cases found
          · split at found
            · simp only [Option.some.injEq] at found
              rw [← found]
              omega
            · cases found
      · split at found
        · simp only [Option.some.injEq] at found
          rw [← found]
          omega
        · cases found

theorem length_rest_dashes? {mode : Mode} {bracket after : Bracket} {text rest : List Char}
    (found : dashes? mode bracket text = some (after, rest)) : rest.length ≤ text.length := by
  fun_induction dashes? mode bracket text with
  | case1 => cases found
  | case2 bracket behind _ induction =>
      have := mode.length_skip_le behind
      have := induction found
      simp only [List.length_cons]
      omega
  | case3 => cases found
  | case4 bracket behind =>
      simp only [Option.some.injEq, Prod.mk.injEq] at found
      have := mode.length_skip_le behind
      rw [← found.2]
      simp only [List.length_cons]
      omega
  | case5 => cases found
  | case6 =>
      simp only [Option.some.injEq, Prod.mk.injEq] at found
      simp [found.2]
  | case7 =>
      simp only [Option.some.injEq, Prod.mk.injEq] at found
      simp [found.2]

theorem length_rest_start? {mode : Mode} {bracket : Bracket} {text rest : List Char}
    (found : start? mode text = some (bracket, rest)) : rest.length ≤ text.length := by
  have shorter := mode.length_skip_le text
  unfold start? at found
  split at found
  · next behind skipped =>
      rw [skipped] at shorter
      split at found
      · have := length_rest_dashes? found
        have := mode.length_skip_le behind
        simp only [List.length_cons] at shorter
        omega
      · cases found
  · exact Nat.le_trans (length_rest_dashes? found) shorter

/-- Read the rest of a class: `outer` are the brackets around the one that is open, and nothing is
left to pass over in front of the text.  The depth of the whole class, and what follows its closing
bracket. -/
def readFrom? (mode : Mode) (outer : List Bracket) (bracket : Bracket) :
    List Char → Option (Nat × List Char)
  | [] => none
  | '[' :: rest =>
      match named : wordClass? rest with
      | some (negated, behind) =>
          have := length_rest_wordClass? named
          if mode.allowsWordClass negated then
            readFrom? mode outer (bracket.add 0) (mode.skip behind)
          else none
      | none =>
          match started : start? mode rest with
          | some (inner, behind) =>
              have := length_rest_start? started
              readFrom? mode (bracket :: outer) inner (mode.skip behind)
          | none => none
  | ']' :: rest =>
      match outer with
      | [] => some (bracket.closedDepth, rest)
      | around :: outer =>
          readFrom? mode outer (around.add bracket.closedDepth) (mode.skip rest)
  | '&' :: '&' :: rest => readFrom? mode outer bracket.operate (mode.skip rest)
  | '-' :: '-' :: rest => readFrom? mode outer bracket.operate (mode.skip rest)
  | '~' :: '~' :: rest => readFrom? mode outer bracket.operate (mode.skip rest)
  | c :: rest =>
      match taken : member? mode (c :: rest) with
      | some behind =>
          have := length_member? taken
          readFrom? mode outer (bracket.add 0) (mode.skip behind)
      | none => none
termination_by text => text.length
decreasing_by
  · have := mode.length_skip_le behind
    simp only [List.length_cons]
    omega
  · have := mode.length_skip_le behind
    simp only [List.length_cons]
    omega
  · exact Nat.lt_succ_of_le (mode.length_skip_le rest)
  all_goals simp only [List.length_cons] at *
  · have := mode.length_skip_le rest
    omega
  · have := mode.length_skip_le rest
    omega
  · have := mode.length_skip_le rest
    omega
  · have := mode.length_skip_le behind
    omega

/-- The depth of a class whose opening bracket stands in front of the text, and what follows it. -/
def read? (mode : Mode) (text : List Char) : Option (Nat × List Char) :=
  match start? mode text with
  | some (bracket, rest) => readFrom? mode [] bracket (mode.skip rest)
  | none => none

theorem length_rest_readFrom? {mode : Mode} {outer : List Bracket} {bracket : Bracket}
    {text rest : List Char} {depth : Nat}
    (found : readFrom? mode outer bracket text = some (depth, rest)) :
    rest.length < text.length := by
  fun_induction readFrom? mode outer bracket text with
  | case1 => cases found
  | case2 _ _ _ negated behind named _ _ induction =>
      have := length_rest_wordClass? named
      have := mode.length_skip_le behind
      have := induction found
      simp only [List.length_cons]
      omega
  | case3 => cases found
  | case4 _ _ _ _ inner behind started _ induction =>
      have := length_rest_start? started
      have := mode.length_skip_le behind
      have := induction found
      simp only [List.length_cons]
      omega
  | case5 => cases found
  | case6 =>
      simp only [Option.some.injEq, Prod.mk.injEq] at found
      simp [found.2]
  | case7 _ rest _ _ induction =>
      have := mode.length_skip_le rest
      have := induction found
      simp only [List.length_cons]
      omega
  | case8 _ _ rest induction =>
      have := mode.length_skip_le rest
      have := induction found
      simp only [List.length_cons]
      omega
  | case9 _ _ rest induction =>
      have := mode.length_skip_le rest
      have := induction found
      simp only [List.length_cons]
      omega
  | case10 _ _ rest induction =>
      have := mode.length_skip_le rest
      have := induction found
      simp only [List.length_cons]
      omega
  | case11 _ _ _ _ _ _ _ _ _ behind taken _ induction =>
      have := length_member? taken
      have := mode.length_skip_le behind
      have := induction found
      simp only [List.length_cons] at *
      omega
  | case12 => cases found

theorem length_rest_read? {mode : Mode} {text rest : List Char} {depth : Nat}
    (found : read? mode text = some (depth, rest)) : rest.length < text.length := by
  unfold read? at found
  split at found
  · next behind started =>
      have := length_rest_start? started
      have := mode.length_skip_le behind
      have := length_rest_readFrom? found
      omega
  · cases found

end Bracket
end Pattern
end PipeQuery

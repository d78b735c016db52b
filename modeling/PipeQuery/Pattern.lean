import PipeQuery.Pattern.Bracket
import PipeQuery.Pattern.Opening

/-!
# Patterns

A pattern is a row of parts, or several rows with bars between them.  A part is a character, an
escape, a point, a class in brackets, a group in parentheses or a place in the text; marks behind
it say how often it may occur.  A mark with numbers in braces is no part of the patterns here,
since a brace ends them.

A pattern is usable if it is well formed, no more than `greatestDepth` deep, and independent of
where words begin and end among all characters.
-/

namespace PipeQuery
namespace Pattern

/-- A part of a pattern between parentheses, or of the whole, as far as it has been read. -/
structure Row where
  /-- The greatest depth of the rows in front of the last bar. -/
  others : Option Nat
  /-- Number of parts since the last bar. -/
  parts : Nat
  /-- The greatest depth of these parts. -/
  depth : Nat
  /-- The depth of the last part, if it may be repeated. -/
  last : Option Nat
  deriving DecidableEq, Repr

namespace Row

/-- Nothing has been read. -/
def empty : Row :=
  { others := none, parts := 0, depth := 0, last := none }

/-- Put a part behind the others. -/
def add (row : Row) (depth : Nat) : Row :=
  { row with parts := row.parts + 1, depth := max row.depth depth, last := some depth }

/-- Put a change of modes behind the other parts. -/
def addSwitch (row : Row) : Row :=
  { row with parts := row.parts + 1, last := none }

/-- Repeat the last part. -/
def repeatLast? (row : Row) : Option Row :=
  row.last.map fun depth =>
    { row with depth := max row.depth (depth + 1), last := some (depth + 1) }

/-- The depth of the parts since the last bar; two and more of them form a row. -/
def rowDepth (row : Row) : Nat :=
  if 2 ≤ row.parts then row.depth + 1 else row.depth

/-- The depth of everything that has been read. -/
def innerDepth (row : Row) : Nat :=
  match row.others with
  | some depth => max depth row.rowDepth + 1
  | none => row.rowDepth

/-- Put a bar behind everything that has been read. -/
def divide (row : Row) : Row :=
  { others := some (max (row.others.getD 0) row.rowDepth), parts := 0, depth := 0, last := none }

/-- The depth of the group when it is closed. -/
def closedDepth (row : Row) : Nat :=
  row.innerDepth + 1

end Row

/-- How far a pattern has been read. -/
structure Progress where
  /-- The modes of the rest. -/
  mode : Mode
  /-- The names of the groups. -/
  names : List (List Char)
  /-- The pattern asks where words begin and end among all characters. -/
  asksWords : Bool
  /-- The groups that are open, from the innermost on, and the modes around the one within. -/
  outer : List (Mode × Row)
  /-- The part that is being read. -/
  row : Row
  deriving DecidableEq, Repr

namespace Progress

/-- Nothing has been read. -/
def start : Progress :=
  { mode := .usual, names := [], asksWords := false, outer := [], row := .empty }

/-- Put a part without parts of its own behind the others, if the modes allow it. -/
def addIf (progress : Progress) (allowed : Bool) : Option Progress :=
  if allowed then some { progress with row := progress.row.add 0 } else none

/-- Open what a parenthesis begins; no two groups have the same name. -/
def begin? (progress : Progress) : Opening → Option Progress
  | .switched mode => some { progress with mode, row := progress.row.addSwitch }
  | .group mode none =>
      some { progress with
        mode
        outer := (progress.mode, progress.row) :: progress.outer
        row := .empty }
  | .group mode (some name) =>
      if progress.names.contains name then none
      else
        some { progress with
          mode
          names := name :: progress.names
          outer := (progress.mode, progress.row) :: progress.outer
          row := .empty }

/-- Close a group. -/
def close? (progress : Progress) : Option Progress :=
  match progress.outer with
  | [] => none
  | (mode, row) :: outer =>
      some { progress with mode, outer, row := row.add progress.row.closedDepth }

/-- Take an escape for a part. -/
def escape? (progress : Progress) : Escape → Option Progress
  | .character c byte => progress.addIf (progress.mode.allowsCharacter c byte)
  | .letterClass negated => progress.addIf (progress.mode.allowsLetterClass negated)
  | .border => progress.addIf true
  | .wordBoundary =>
      { progress with asksWords := progress.asksWords || progress.mode.unicode }.addIf true

/-- Take one part, mark or parenthesis that the character begins, and what follows it. -/
def step? (progress : Progress) (c : Char) (rest : List Char) :
    Option (Progress × List Char) :=
  match c with
  | '(' => do
      let (opening, rest) ← Opening.read? progress.mode rest
      return (← progress.begin? opening, rest)
  | ')' => progress.close?.map (·, rest)
  | '|' => some ({ progress with row := progress.row.divide }, rest)
  | '[' => do
      let (depth, rest) ← Bracket.read? progress.mode rest
      return ({ progress with row := progress.row.add depth }, rest)
  | '?' | '*' | '+' => do
      let row ← progress.row.repeatLast?
      return ({ progress with row }, if rest.head? = some '?' then rest.drop 1 else rest)
  | '\x7b' => none
  | '.' => (progress.addIf progress.mode.allowsComplement).map (·, rest)
  | '^' | '$' => (progress.addIf true).map (·, rest)
  | '\\' => do
      let (escape, rest) ← Escape.read? progress.mode rest
      return (← progress.escape? escape, rest)
  | c => (progress.addIf (progress.mode.allowsCharacter c false)).map (·, rest)

theorem length_rest_step? {progress after : Progress} {c : Char} {text rest : List Char}
    (found : progress.step? c text = some (after, rest)) : rest.length ≤ text.length := by
  unfold step? at found
  split at found
  · simp only [Option.bind_eq_bind, Option.bind_eq_some_iff, Prod.exists] at found
    obtain ⟨opening, behind, opening_found, _, _, same⟩ := found
    simp only [pure, Option.some.injEq, Prod.mk.injEq] at same
    rw [← same.2]
    exact Opening.length_rest_read? opening_found
  · simp only [Option.map_eq_some_iff, Prod.mk.injEq] at found
    obtain ⟨_, _, _, same⟩ := found
    simp [same]
  · simp only [Option.some.injEq, Prod.mk.injEq] at found
    simp [found.2]
  · simp only [Option.bind_eq_bind, Option.bind_eq_some_iff, Prod.exists] at found
    obtain ⟨depth, behind, class_found, same⟩ := found
    simp only [pure, Option.some.injEq, Prod.mk.injEq] at same
    rw [← same.2]
    exact Nat.le_of_lt (Bracket.length_rest_read? class_found)
  case h_5 | h_6 | h_7 =>
    simp only [Option.bind_eq_bind, Option.bind_eq_some_iff] at found
    obtain ⟨_, _, same⟩ := found
    simp only [pure, Option.some.injEq, Prod.mk.injEq] at same
    rw [← same.2]
    split <;> simp
  · cases found
  case h_9 | h_10 | h_11 | h_13 =>
    simp only [Option.map_eq_some_iff, Prod.mk.injEq] at found
    obtain ⟨_, _, _, same⟩ := found
    simp [same]
  · simp only [Option.bind_eq_bind, Option.bind_eq_some_iff, Prod.exists] at found
    obtain ⟨escape, behind, escape_found, _, _, same⟩ := found
    simp only [pure, Option.some.injEq, Prod.mk.injEq] at same
    rw [← same.2]
    exact Nat.le_of_lt (Escape.length_rest_read? escape_found)

/-- Read the rest of a pattern. -/
def read? (progress : Progress) (text : List Char) : Option Progress :=
  match next : progress.mode.skip text with
  | [] => if progress.outer.isEmpty then some progress else none
  | c :: rest =>
      match taken : progress.step? c rest with
      | some (after, behind) =>
          have shorter : behind.length < text.length := by
            have := progress.mode.length_skip_le text
            have := length_rest_step? taken
            rw [next] at *
            simp only [List.length_cons] at *
            omega
          read? after behind
      | none => none
termination_by text.length

end Progress

/-- Why a pattern cannot be used. -/
inductive Fault where
  /-- It is not well formed, describes no whole characters, or is too deep. -/
  | malformed
  /-- It asks where words begin and end among all characters. -/
  | asksWords
  deriving DecidableEq, Repr

/-- The greatest depth of a pattern. -/
def greatestDepth : Nat := 250

/-- Why a text is no usable pattern, if it is none. -/
def fault? (text : List Char) : Option Fault :=
  match Progress.start.read? text with
  | none => some .malformed
  | some progress =>
      if greatestDepth < progress.row.innerDepth then some .malformed
      else if progress.asksWords then some .asksWords
      else none

end Pattern
end PipeQuery

import PipeQuery.Pattern.Mode
import PipeQuery.Text.Alphanumeric

/-!
# Groups in a pattern

A group stands in parentheses.  It may have a name, and it may switch modes on and off for its part
of the pattern.  In parentheses with switches only, the modes change for the rest of the group
around them.
-/

namespace PipeQuery
namespace Pattern

/-- What an opening parenthesis begins. -/
inductive Opening where
  /-- A group that is read in these modes, with a name or without. -/
  | group (mode : Mode) (name : Option (List Char))
  /-- Nothing: the modes change. -/
  | switched (mode : Mode)
  deriving DecidableEq, Repr

namespace Opening

/-- The characters with which a name starts. -/
def startsName (c : Char) : Bool :=
  c == '_' || Text.isAlphabetic c

/-- The characters with which a name goes on. -/
def continuesName (c : Char) : Bool :=
  c == '_' || c == '.' || c == '[' || c == ']' || Text.isAlphanumeric c

/-- A text is a name. -/
def isName : List Char → Bool
  | [] => false
  | c :: rest => startsName c && rest.all continuesName

/-- A name up to the angle that closes it, and what follows. -/
def name? (text : List Char) : Option (List Char × List Char) :=
  match text.dropWhile (· != '>') with
  | '>' :: rest =>
      if isName (text.takeWhile (· != '>')) then some (text.takeWhile (· != '>'), rest) else none
  | _ => none

/-- The letters that switch modes, and the dash in front of those to be switched off. -/
def switchLetters : List Char := ['i', 'm', 's', 'U', 'u', 'R', 'x', '-']

/-- A text switches modes: no letter is repeated, and some letter follows the dash. -/
def isSwitch (switch : List Char) : Bool :=
  switch.all switchLetters.contains && decide switch.Nodup && switch.getLast? != some '-'

/-- A mode after a switch in which it has that letter. -/
def applied (switch : List Char) (letter : Char) (mode : Bool) : Bool :=
  if (switch.takeWhile (· != '-')).contains letter then true
  else if switch.contains letter then false
  else mode

/-- The modes after a switch. -/
def switchedMode (switch : List Char) (mode : Mode) : Mode where
  ignoresCase := applied switch 'i' mode.ignoresCase
  unicode := applied switch 'u' mode.unicode
  spaced := applied switch 'x' mode.spaced

/-- The characters of a switch go on up to a colon or a closing parenthesis. -/
def continuesSwitch (c : Char) : Bool :=
  c != ':' && c != ')'

/-- A switch behind a question mark, and what follows it. -/
def switch? (mode : Mode) (text : List Char) : Option (Opening × List Char) :=
  let switch := text.takeWhile continuesSwitch
  if isSwitch switch then
    match text.dropWhile continuesSwitch with
    | ':' :: rest => some (group (switchedMode switch mode) none, rest)
    | ')' :: rest =>
        if switch.isEmpty then none else some (switched (switchedMode switch mode), rest)
    | _ => none
  else none

/-- A group with a name whose first angle stands in front of the text. -/
def named? (mode : Mode) (text : List Char) : Option (Opening × List Char) :=
  (name? text).map fun (name, rest) => (group mode (some name), rest)

/-- What the parenthesis in front of the text begins, and what follows the beginning. -/
def read? (mode : Mode) (text : List Char) : Option (Opening × List Char) :=
  match mode.skip text with
  | '?' :: 'P' :: '<' :: rest => named? mode rest
  | '?' :: '<' :: rest => named? mode rest
  | '?' :: rest => switch? mode rest
  | rest => some (group mode none, rest)

theorem length_rest_switch? {mode : Mode} {text rest : List Char} {opening : Opening}
    (found : switch? mode text = some (opening, rest)) : rest.length < text.length := by
  have suffix := (List.dropWhile_suffix (l := text) continuesSwitch).length_le
  simp only [switch?] at found
  split at found
  · split at found
    · next same =>
        rw [same] at suffix
        simp only [Option.some.injEq, Prod.mk.injEq] at found
        rw [← found.2]
        exact suffix
    · next same =>
        rw [same] at suffix
        split at found
        · cases found
        · simp only [Option.some.injEq, Prod.mk.injEq] at found
          rw [← found.2]
          exact suffix
    · cases found
  · cases found

theorem length_rest_name? {text name rest : List Char}
    (found : name? text = some (name, rest)) : rest.length < text.length := by
  have suffix := (List.dropWhile_suffix (l := text) (· != '>')).length_le
  unfold name? at found
  split at found
  · next same =>
      rw [same] at suffix
      split at found
      · simp only [Option.some.injEq, Prod.mk.injEq] at found
        rw [← found.2]
        exact suffix
      · cases found
  · cases found

theorem length_rest_named? {mode : Mode} {text rest : List Char} {opening : Opening}
    (found : named? mode text = some (opening, rest)) : rest.length < text.length := by
  simp only [named?, Option.map_eq_some_iff, Prod.mk.injEq, Prod.exists] at found
  obtain ⟨name, behind, name_found, _, rfl⟩ := found
  exact length_rest_name? name_found

theorem length_rest_read? {mode : Mode} {text rest : List Char} {opening : Opening}
    (found : read? mode text = some (opening, rest)) : rest.length ≤ text.length := by
  have shorter := mode.length_skip_le text
  unfold read? at found
  split at found
  · next skipped =>
      have := length_rest_named? found
      rw [skipped] at shorter
      simp only [List.length_cons] at shorter
      omega
  · next skipped =>
      have := length_rest_named? found
      rw [skipped] at shorter
      simp only [List.length_cons] at shorter
      omega
  · next skipped =>
      have := length_rest_switch? found
      rw [skipped] at shorter
      simp only [List.length_cons] at shorter
      omega
  · simp only [Option.some.injEq, Prod.mk.injEq] at found
    rw [← found.2]
    exact shorter

end Opening
end Pattern
end PipeQuery

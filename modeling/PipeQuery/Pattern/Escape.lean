import PipeQuery.Pattern.Mode

/-!
# Escapes in a pattern

A backslash and what follows it stand for a character, for a class of characters, or for a place in
the text.  Every punctuation mark of the first 128 code points may stand behind a backslash for
itself; a letter or a digit has a meaning of its own there or none.
-/

namespace PipeQuery
namespace Pattern

/-- What an escape stands for. -/
inductive Escape where
  /-- A character; `byte` says that it is given as one byte. -/
  | character (c : Char) (byte : Bool)
  /-- A class with a letter for its name, or the complement of one. -/
  | letterClass (negated : Bool)
  /-- The start or the end of the text. -/
  | border
  /-- A place next to a word, or away from one. -/
  | wordBoundary
  deriving DecidableEq, Repr

namespace Escape

/-- The value of a digit in base sixteen. -/
def digitValue? (c : Char) : Option Nat :=
  if c.isDigit then some (c.toNat - '0'.toNat)
  else if 'a' ≤ c ∧ c ≤ 'f' then some (c.toNat - 'a'.toNat + 10)
  else if 'A' ≤ c ∧ c ≤ 'F' then some (c.toNat - 'A'.toNat + 10)
  else none

/-- A number of that many digits in base sixteen with `value` in front, and what follows it. -/
def hexadecimal? (mode : Mode) (value : Nat) : Nat → List Char → Option (Nat × List Char)
  | 0, text => some (value, text)
  | digits + 1, text =>
      match mode.skip text with
      | [] => none
      | c :: rest =>
          match digitValue? c with
          | some digit => hexadecimal? mode (16 * value + digit) digits rest
          | none => none

/-- A number is the code point of a character. -/
def isCodePoint (value : Nat) : Bool :=
  value < 0xd800 || (0xdfff < value && value ≤ 0x10ffff)

/-- A character by its code point, which has that many digits. -/
def ofCodePoint? (mode : Mode) (digits : Nat) (text : List Char) :
    Option (Escape × List Char) :=
  match hexadecimal? mode 0 digits text with
  | some (value, rest) =>
      if isCodePoint value then some (.character (Char.ofNat value) (digits == 2), rest) else none
  | none => none

/-- A character stands for itself behind a backslash. -/
def isPlain (c : Char) : Bool :=
  c.toNat < 0x80 && !c.isAlphanum && c != '<' && c != '>'

/-- What a single character stands for behind a backslash. -/
def ofCharacter? (c : Char) : Option Escape :=
  match c with
  | 'd' | 's' | 'w' => some (letterClass false)
  | 'D' | 'S' | 'W' => some (letterClass true)
  | 'a' => some (character '\x07' false)
  | 'f' => some (character '\x0c' false)
  | 't' => some (character '\t' false)
  | 'n' => some (character '\n' false)
  | 'r' => some (character '\r' false)
  | 'v' => some (character '\x0b' false)
  | 'A' | 'z' => some border
  | 'b' | 'B' | '<' | '>' => some wordBoundary
  | _ => if isPlain c then some (character c false) else none

/-- The escape whose backslash stands in front of the text, and what follows it. -/
def read? (mode : Mode) : List Char → Option (Escape × List Char)
  | [] => none
  | 'x' :: rest => ofCodePoint? mode 2 rest
  | 'u' :: rest => ofCodePoint? mode 4 rest
  | 'U' :: rest => ofCodePoint? mode 8 rest
  | c :: rest => (ofCharacter? c).map (·, rest)

theorem length_rest_hexadecimal? {mode : Mode} {digits value number : Nat}
    {text rest : List Char} (found : hexadecimal? mode value digits text = some (number, rest)) :
    rest.length ≤ text.length := by
  induction digits generalizing value text with
  | zero =>
      simp only [hexadecimal?, Option.some.injEq, Prod.mk.injEq] at found
      simp [found.2]
  | succ digits induction =>
      have shorter := mode.length_skip_le text
      unfold hexadecimal? at found
      split at found
      · cases found
      · next skipped =>
          rw [skipped] at shorter
          split at found
          · have := induction found
            simp only [List.length_cons] at shorter
            omega
          · cases found

theorem length_rest_ofCodePoint? {mode : Mode} {digits : Nat} {text rest : List Char}
    {escape : Escape} (found : ofCodePoint? mode digits text = some (escape, rest)) :
    rest.length ≤ text.length := by
  unfold ofCodePoint? at found
  split at found
  · next digits_found =>
      split at found
      · simp only [Option.some.injEq, Prod.mk.injEq] at found
        rw [← found.2]
        exact length_rest_hexadecimal? digits_found
      · cases found
  · cases found

theorem length_rest_read? {mode : Mode} {text rest : List Char} {escape : Escape}
    (found : read? mode text = some (escape, rest)) : rest.length < text.length := by
  unfold read? at found
  split at found
  · cases found
  case h_2 | h_3 | h_4 => exact Nat.lt_succ_of_le (length_rest_ofCodePoint? found)
  · simp only [Option.map_eq_some_iff, Prod.mk.injEq] at found
    obtain ⟨_, _, _, same⟩ := found
    simp [same]

end Escape
end Pattern
end PipeQuery

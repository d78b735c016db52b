import PipeQuery.Text.CharacterSet

/-!
# Modes of a pattern

A pattern describes texts by their characters.  How its parts are read depends on three modes, which
the pattern itself may switch on and off.  A pattern may only describe whole characters, and only
among the first 128 code points is it known which letters differ in their case alone, and which
characters a letter names; the modes decide what may be given under these limits.
-/

namespace PipeQuery
namespace Pattern

/-- The modes in which a pattern is read. -/
structure Mode where
  /-- Upper and lower case are alike. -/
  ignoresCase : Bool
  /-- The pattern is about all characters, not about the first 128 code points. -/
  unicode : Bool
  /-- White space and comments between the parts of the pattern are passed over. -/
  spaced : Bool
  deriving DecidableEq, Repr

namespace Mode

/-- The modes in which a pattern starts. -/
def usual : Mode :=
  { ignoresCase := false, unicode := true, spaced := false }

/-- A character may stand for itself; `byte` says that it is given as one byte. -/
def allowsCharacter (mode : Mode) (c : Char) (byte : Bool) : Bool :=
  if mode.unicode then !mode.ignoresCase else !(byte && 0x80 ≤ c.toNat)

/-- A character may be a member of a class. -/
def allowsMember (mode : Mode) (c : Char) : Bool :=
  if mode.unicode then !mode.ignoresCase else c.toNat < 0x80

/-- A class with a letter for its name, or the complement of one, may be given. -/
def allowsLetterClass (mode : Mode) (negated : Bool) : Bool :=
  !mode.unicode && !negated

/-- A class with a word for its name, or the complement of one, may be given. -/
def allowsWordClass (mode : Mode) (negated : Bool) : Bool :=
  if mode.unicode then !mode.ignoresCase else !negated

/-- The complement of a class, or the class of almost all characters, may be given. -/
def allowsComplement (mode : Mode) : Bool :=
  mode.unicode

/-- Pass over white space and comments, within a comment at first or not.  A comment starts with a
number sign and ends with its line. -/
def skipSpace (inComment : Bool) : List Char → List Char
  | [] => []
  | c :: rest =>
      if inComment then skipSpace (c != '\n') rest
      else if Text.CharacterSet.whiteSpace.contains c then skipSpace false rest
      else if c = '#' then skipSpace true rest
      else c :: rest

/-- Pass over what the mode allows to stand between two parts of a pattern. -/
def skip (mode : Mode) (text : List Char) : List Char :=
  if mode.spaced then skipSpace false text else text

/-- The character that counts as the next one behind a dash in a class.  A number sign in front of
it is passed over but does not start a comment. -/
def glance (mode : Mode) (text : List Char) : Option Char :=
  if mode.spaced then
    match text.dropWhile Text.CharacterSet.whiteSpace.contains with
    | '#' :: rest => (rest.dropWhile Text.CharacterSet.whiteSpace.contains).head?
    | rest => rest.head?
  else text.head?

theorem length_skipSpace_le (inComment : Bool) (text : List Char) :
    (skipSpace inComment text).length ≤ text.length := by
  induction text generalizing inComment with
  | nil => simp [skipSpace]
  | cons c rest induction =>
      unfold skipSpace
      split
      · exact Nat.le_succ_of_le (induction _)
      · split
        · exact Nat.le_succ_of_le (induction _)
        · split
          · exact Nat.le_succ_of_le (induction _)
          · exact Nat.le_refl _

theorem length_skip_le (mode : Mode) (text : List Char) :
    (mode.skip text).length ≤ text.length := by
  unfold skip
  split
  · exact length_skipSpace_le false text
  · exact Nat.le_refl _

end Mode
end Pattern
end PipeQuery

/-!
# Sets of characters

A set of characters is given by the code points at which membership changes.  The sets of the
character standard consist of runs of neighbouring characters, so two numbers stand for a run.
-/

namespace PipeQuery
namespace Text

/-- A set of characters. -/
structure CharacterSet where
  /-- The first code points of the runs, each followed by the first one behind the run, in
  increasing order. -/
  changes : List Nat
  deriving DecidableEq, Repr

namespace CharacterSet

/-- A character is in the set when an odd number of changes lies at or before it. -/
def contains (set : CharacterSet) (c : Char) : Bool :=
  set.changes.countP (fun change => change ≤ c.toNat) % 2 == 1

/-- The white space of the character standard. -/
def whiteSpace : CharacterSet where
  changes :=
    [0x9, 0xe, 0x20, 0x21, 0x85, 0x86, 0xa0, 0xa1, 0x1680, 0x1681, 0x2000, 0x200b, 0x2028, 0x202a,
      0x202f, 0x2030, 0x205f, 0x2060, 0x3000, 0x3001]

/-- A blank that separates tokens is white space. -/
example : ([' ', '\t', '\n', '\r'].all whiteSpace.contains) = true := by decide +kernel

end CharacterSet
end Text
end PipeQuery

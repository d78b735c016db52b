/-!
# Strings of a data text

Between its quotes a string stands for one unit per character or escape.  An escape by four
hexadecimal digits gives a sixteen-bit unit; two such units that form a surrogate pair make one
character, and half a pair makes none.
-/

namespace PipeQuery
namespace Json

/-- What one character or one escape between quotes stands for. -/
inductive TextUnit where
  /-- A character. -/
  | character (c : Char)
  /-- A sixteen-bit unit. -/
  | code (value : Nat)
  deriving DecidableEq, Repr

namespace TextUnit

/-- A unit that opens a surrogate pair. -/
def isHigh (value : Nat) : Bool :=
  0xd800 ≤ value && value < 0xdc00

/-- A unit that closes a surrogate pair. -/
def isLow (value : Nat) : Bool :=
  0xdc00 ≤ value && value < 0xe000

/-- The character of a surrogate pair. -/
def pair (high low : Nat) : Char :=
  Char.ofNat (0x10000 + (high - 0xd800) * 0x400 + (low - 0xdc00))

/-- The characters of a run of units, `open?` being the half pair before it. -/
def charactersAfter? (open? : Option Nat) : List TextUnit → Option (List Char)
  | [] => if open?.isSome then none else some []
  | character c :: units =>
      if open?.isSome then none else (charactersAfter? none units).map (c :: ·)
  | code value :: units =>
      match open? with
      | some high =>
          if isLow value then (charactersAfter? none units).map (pair high value :: ·) else none
      | none =>
          if isHigh value then charactersAfter? (some value) units
          else if isLow value then none
          else (charactersAfter? none units).map (Char.ofNat value :: ·)

/-- The characters of a run of units; none where half a pair stands alone. -/
def characters? (units : List TextUnit) : Option (List Char) :=
  charactersAfter? none units

end TextUnit

/-- The value of a hexadecimal digit of either case. -/
def hexDigit? (c : Char) : Option Nat :=
  if '0' ≤ c ∧ c ≤ '9' then some (c.toNat - '0'.toNat)
  else if 'a' ≤ c ∧ c ≤ 'f' then some (c.toNat - 'a'.toNat + 10)
  else if 'A' ≤ c ∧ c ≤ 'F' then some (c.toNat - 'A'.toNat + 10)
  else none

/-- The unit of four hexadecimal digits. -/
def hexUnit? (a b c d : Char) : Option TextUnit := do
  let a ← hexDigit? a
  let b ← hexDigit? b
  let c ← hexDigit? c
  let d ← hexDigit? d
  return .code (((a * 16 + b) * 16 + c) * 16 + d)

/-- The character that a short escape stands for. -/
def shortEscape? (c : Char) : Option Char :=
  match c with
  | '"' => some '"'
  | '\\' => some '\\'
  | '/' => some '/'
  | 'b' => some '\x08'
  | 'f' => some '\x0c'
  | 'n' => some '\n'
  | 'r' => some '\r'
  | 't' => some '\t'
  | _ => none

/-- The units up to the closing quote and what follows it.  Control characters below the space
must be escaped. -/
def units? : List Char → Option (List TextUnit × List Char)
  | [] => none
  | '"' :: rest => some ([], rest)
  | '\\' :: 'u' :: a :: b :: c :: d :: rest => do
      let unit ← hexUnit? a b c d
      let (units, rest) ← units? rest
      return (unit :: units, rest)
  | '\\' :: c :: rest => do
      let c ← shortEscape? c
      let (units, rest) ← units? rest
      return (.character c :: units, rest)
  | c :: rest =>
      if c.toNat < 0x20 then none
      else do
        let (units, rest) ← units? rest
        return (.character c :: units, rest)

/-- How a character stands between quotes. -/
def escaped (c : Char) : List Char :=
  match c with
  | '"' => ['\\', '"']
  | '\\' => ['\\', '\\']
  | '\x08' => ['\\', 'b']
  | '\x0c' => ['\\', 'f']
  | '\n' => ['\\', 'n']
  | '\r' => ['\\', 'r']
  | '\t' => ['\\', 't']
  | _ =>
      if c.toNat < 0x20 then
        ['\\', 'u', '0', '0', Nat.digitChar (c.toNat / 16), Nat.digitChar (c.toNat % 16)]
      else [c]

/-- A string between quotes.  An absent string stands as half a surrogate pair. -/
def quoted (value : Option String) : List Char :=
  match value with
  | some value => '"' :: value.toList.flatMap escaped ++ ['"']
  | none => '"' :: ['\\', 'u', 'd', '8', '0', '0'] ++ ['"']

/-- What follows the closing quote is shorter. -/
theorem length_rest_units? {text : List Char} {units : List TextUnit} {rest : List Char}
    (found : units? text = some (units, rest)) : rest.length < text.length := by
  fun_induction units? text generalizing units with
  | case1 => simp at found
  | case2 rest' =>
      simp only [Option.some.injEq, Prod.mk.injEq] at found
      simp [found.2]
  | case3 a b c d rest' induction =>
      simp only [bind, Option.bind_eq_some_iff, pure, Option.some.injEq, Prod.mk.injEq] at found
      obtain ⟨_, _, ⟨_, _⟩, found, _, rfl⟩ := found
      have := induction found
      simp only [List.length_cons] at this ⊢
      omega
  | case4 c rest' _ induction =>
      simp only [bind, Option.bind_eq_some_iff, pure, Option.some.injEq, Prod.mk.injEq] at found
      obtain ⟨_, _, ⟨_, _⟩, found, _, rfl⟩ := found
      have := induction found
      simp only [List.length_cons] at this ⊢
      omega
  | case5 => simp at found
  | case6 c rest' _ _ _ _ induction =>
      simp only [bind, Option.bind_eq_some_iff, pure, Option.some.injEq, Prod.mk.injEq] at found
      obtain ⟨⟨_, _⟩, found, _, rfl⟩ := found
      have := induction found
      simp only [List.length_cons] at this ⊢
      omega

end Json
end PipeQuery

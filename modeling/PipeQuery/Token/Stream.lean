import PipeQuery.Token.Scan

/-!
# The tokens of a text

Reading tokens over and over gives the tokens of a text in order, up to the end of the text or to
the first fault.
-/

namespace PipeQuery

/-- All tokens of a text and what stands after the last of them. -/
structure TokenStream where
  /-- The tokens in order. -/
  tokens : List Token
  /-- The fault behind the last token; without one the text ends there. -/
  fault : Option LexicalFault
  deriving DecidableEq, Repr

namespace TokenStream

/-- Put a token in front. -/
def push (token : Token) (stream : TokenStream) : TokenStream :=
  { stream with tokens := token :: stream.tokens }

/-- The tokens of a text that starts at `offset`. -/
def readFrom (tolerant : Bool) (offset : Nat) (text : List Char) : TokenStream :=
  match _ : (Token.scan tolerant offset text).outcome with
  | .ok (some token) =>
      (readFrom tolerant (Token.scan tolerant offset text).offset
        (Token.scan tolerant offset text).rest).push token
  | .ok none => { tokens := [], fault := none }
  | .error fault => { tokens := [], fault := some fault }
  termination_by text.length
  decreasing_by exact Scan.length_rest_lt ‹_›

theorem readFrom_of_token {tolerant : Bool} {offset : Nat} {text : List Char} {token : Token}
    (made : (Token.scan tolerant offset text).outcome = .ok (some token)) :
    readFrom tolerant offset text =
      (readFrom tolerant (Token.scan tolerant offset text).offset
        (Token.scan tolerant offset text).rest).push token := by
  rw [readFrom]
  split
  · next token' made' =>
      rw [made'] at made
      cases made
      rfl
  · next made' => rw [made'] at made; cases made
  · next made' => rw [made'] at made; cases made

theorem readFrom_of_end {tolerant : Bool} {offset : Nat} {text : List Char}
    (ended : (Token.scan tolerant offset text).outcome = .ok none) :
    readFrom tolerant offset text = { tokens := [], fault := none } := by
  rw [readFrom]
  split
  · next ended' => rw [ended'] at ended; cases ended
  · rfl
  · next ended' => rw [ended'] at ended; cases ended

theorem readFrom_of_fault {tolerant : Bool} {offset : Nat} {text : List Char}
    {fault : LexicalFault} (failed : (Token.scan tolerant offset text).outcome = .error fault) :
    readFrom tolerant offset text = { tokens := [], fault := some fault } := by
  rw [readFrom]
  split
  · next failed' => rw [failed'] at failed; cases failed
  · next failed' => rw [failed'] at failed; cases failed
  · next fault' failed' =>
      rw [failed'] at failed
      cases failed
      rfl

/-- The tokens of a whole text. -/
def read (tolerant : Bool) (text : List Char) : TokenStream :=
  readFrom tolerant 0 text

end TokenStream
end PipeQuery

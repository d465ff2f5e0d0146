/-!
# SipHash with one and three rounds

A keyed 64-bit digest of a list of bytes, here with both keys zero. One round follows each word of
eight bytes and three rounds finish.
-/

namespace QueryWarden.Crypto.SipHash

/-- The four words of the state. -/
structure State where
  v0 : UInt64
  v1 : UInt64
  v2 : UInt64
  v3 : UInt64
  deriving DecidableEq, Repr

/-- The word turned to the left. -/
def rotate (word : UInt64) (places : UInt64) : UInt64 :=
  (word <<< places) ||| (word >>> (64 - places))

/-- One round. -/
def State.round (state : State) : State :=
  let a := state.v0 + state.v1
  let b := rotate state.v1 13 ^^^ a
  let a := rotate a 32
  let c := state.v2 + state.v3
  let d := rotate state.v3 16 ^^^ c
  let a := a + d
  let d := rotate d 21 ^^^ a
  let c := c + b
  let b := rotate b 17 ^^^ c
  ⟨a, b, rotate c 32, d⟩

/-- The state before the first word, for zero keys. -/
def initial : State :=
  ⟨0x736f6d6570736575, 0x646f72616e646f6d, 0x6c7967656e657261, 0x7465646279746573⟩

/-- The state after one more word. -/
def State.absorb (state : State) (word : UInt64) : State :=
  let mixed := { state with v3 := state.v3 ^^^ word }.round
  { mixed with v0 := mixed.v0 ^^^ word }

/-- Bytes as a word, the first byte lowest. -/
def word (bytes : List UInt8) : UInt64 :=
  bytes.foldr (fun byte word => (word <<< 8) ||| byte.toUInt64) 0

/-- Absorbs whole words; the bytes left over go into the last word together with the length. -/
def absorbAll (length : Nat) : List UInt8 → State → State
  | a :: b :: c :: d :: e :: f :: g :: h :: rest, state =>
      absorbAll length rest (state.absorb (word [a, b, c, d, e, f, g, h]))
  | rest, state => state.absorb (word rest ||| (UInt64.ofNat length <<< 56))

/-- The digest of a list of bytes. -/
def digest (bytes : List UInt8) : UInt64 :=
  let state := absorbAll bytes.length bytes initial
  let state := { state with v2 := state.v2 ^^^ 0xff }.round.round.round
  state.v0 ^^^ state.v1 ^^^ state.v2 ^^^ state.v3

end QueryWarden.Crypto.SipHash

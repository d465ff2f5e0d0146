import QueryWarden.Bytes.Utf8

/-!
# Base64

The standard alphabet with padding, read strictly: every list of bytes has one spelling only.
-/

namespace QueryWarden.Bytes.Base64

/-- The byte that stands for a value below 64. -/
def symbol (value : Nat) : UInt8 :=
  if value < 26 then byte (65 + value)
  else if value < 52 then byte (71 + value)
  else if value < 62 then byte (value - 4)
  else if value = 62 then byte 43
  else byte 47

/-- The value that a byte stands for. -/
def value? (symbol : UInt8) : Option Nat :=
  let code := symbol.toNat
  if 65 ≤ code ∧ code ≤ 90 then some (code - 65)
  else if 97 ≤ code ∧ code ≤ 122 then some (code - 71)
  else if 48 ≤ code ∧ code ≤ 57 then some (code + 4)
  else if code = 43 then some 62
  else if code = 47 then some 63
  else none

/-- The padding byte. -/
def padding : UInt8 := 61

/-- The symbols for bytes, three at a time. -/
def encode : List UInt8 → List UInt8
  | [] => []
  | [a] => [symbol (a.toNat / 4), symbol (a.toNat % 4 * 16), padding, padding]
  | [a, b] =>
      [symbol (a.toNat / 4), symbol (a.toNat % 4 * 16 + b.toNat / 16),
        symbol (b.toNat % 16 * 4), padding]
  | a :: b :: c :: rest =>
      symbol (a.toNat / 4) :: symbol (a.toNat % 4 * 16 + b.toNat / 16) ::
        symbol (b.toNat % 16 * 4 + c.toNat / 64) :: symbol (c.toNat % 64) :: encode rest

/-- Why symbols stand for no bytes. -/
inductive Fault where
  | invalidSymbol (symbol : UInt8) (offset : Nat)
  | invalidLastSymbol (symbol : UInt8) (offset : Nat)
  | invalidPadding
  | invalidLength (length : Nat)
  deriving DecidableEq, Repr

/-- The fault in words. -/
def Fault.message : Fault → String
  | .invalidSymbol symbol offset =>
      "Invalid symbol " ++ toString symbol.toNat ++ ", offset " ++ toString offset ++ "."
  | .invalidLastSymbol symbol offset =>
      "Invalid last symbol " ++ toString symbol.toNat ++ ", offset " ++ toString offset ++ "."
  | .invalidPadding => "Invalid padding"
  | .invalidLength length => "Invalid input length: " ++ toString length

/-- The value of a symbol that may not be padding. -/
def need (symbol : UInt8) (offset : Nat) : Except Fault Nat :=
  match value? symbol with
  | some value => .ok value
  | none => .error (.invalidSymbol symbol offset)

/-- The first two bytes' worth of the last group's two symbols, which leave no bits over. -/
def lastTwo (second : UInt8) (a b offset : Nat) : Except Fault (List UInt8) :=
  if b % 16 = 0 then .ok [byte (a * 4 + b / 16)]
  else .error (.invalidLastSymbol second (offset + 1))

/-- The bytes of the last group's three symbols, which leave no bits over. -/
def lastThree (third : UInt8) (a b c offset : Nat) : Except Fault (List UInt8) :=
  if c % 4 = 0 then .ok [byte (a * 4 + b / 16), byte (b % 16 * 16 + c / 4)]
  else .error (.invalidLastSymbol third (offset + 2))

/-- The last group: four symbols at most, of which one or two may be padding. -/
def decodeLast (offset : Nat) (group : List UInt8) : Except Fault (List UInt8) :=
  match group with
  | [] => .ok []
  | [first] => do
      let _ ← need first offset
      .error (.invalidLength (offset + 1))
  | [first, second] => do
      let _ ← need first offset
      let _ ← need second (offset + 1)
      .error .invalidPadding
  | [first, second, third] => do
      let _ ← need first offset
      let _ ← need second (offset + 1)
      if third = padding then .error .invalidPadding
      else
        let _ ← need third (offset + 2)
        .error .invalidPadding
  | first :: second :: third :: fourth :: _ => do
      let a ← need first offset
      let b ← need second (offset + 1)
      if third = padding then
        if fourth = padding then lastTwo second a b offset
        else .error (.invalidSymbol padding (offset + 2))
      else
        let c ← need third (offset + 2)
        if fourth = padding then lastThree third a b c offset
        else
          let d ← need fourth (offset + 3)
          .ok [byte (a * 4 + b / 16), byte (b % 16 * 16 + c / 4), byte (c % 4 * 64 + d)]

/-- Groups of four symbols up to the last group, which is kept for the end even if complete. -/
def decodeGroups : Nat → List UInt8 → Except Fault (List UInt8)
  | offset, first :: second :: third :: fourth :: next :: rest => do
      let a ← need first offset
      let b ← need second (offset + 1)
      let c ← need third (offset + 2)
      let d ← need fourth (offset + 3)
      let bytes ← decodeGroups (offset + 4) (next :: rest)
      .ok (byte (a * 4 + b / 16) :: byte (b % 16 * 16 + c / 4) :: byte (c % 4 * 64 + d) :: bytes)
  | offset, group => decodeLast offset group

/-- The bytes that symbols stand for. A single byte too many at the end that is no symbol is
reported before anything else. -/
def decode (symbols : List UInt8) : Except Fault (List UInt8) :=
  match symbols.getLast? with
  | some last =>
      if symbols.length % 4 = 1 && last != padding && (value? last).isNone then
        .error (.invalidSymbol last (symbols.length - 1))
      else decodeGroups 0 symbols
  | none => .ok []

end QueryWarden.Bytes.Base64

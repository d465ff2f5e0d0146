/-!
# UTF-8

Texts as bytes and back. Reading is strict and says where and how the bytes go wrong, or lenient
and puts the replacement character in place of each stretch that cannot be continued.
-/

namespace QueryWarden.Bytes

/-- A byte from its value. -/
def byte (value : Nat) : UInt8 := UInt8.ofNat value

/-- The bytes of a code point. -/
def encodeCode (code : Nat) : List UInt8 :=
  if code < 0x80 then [byte code]
  else if code < 0x800 then [byte (0xc0 + code / 0x40), byte (0x80 + code % 0x40)]
  else if code < 0x10000 then
    [byte (0xe0 + code / 0x1000), byte (0x80 + code / 0x40 % 0x40), byte (0x80 + code % 0x40)]
  else
    [byte (0xf0 + code / 0x40000), byte (0x80 + code / 0x1000 % 0x40),
      byte (0x80 + code / 0x40 % 0x40), byte (0x80 + code % 0x40)]

/-- The bytes of a text. -/
def encodeText (text : List Char) : List UInt8 :=
  text.flatMap fun c => encodeCode c.toNat

/-- Why bytes are no text: a sequence of some bytes that is wrong, or one that is cut short. -/
inductive Utf8Fault where
  | invalid (length index : Nat)
  | incomplete (index : Nat)
  deriving DecidableEq, Repr

/-- The fault in words. -/
def Utf8Fault.message : Utf8Fault → String
  | .invalid length index =>
      "invalid utf-8 sequence of " ++ toString length ++ " bytes from index " ++ toString index
  | .incomplete index => "incomplete utf-8 byte sequence from index " ++ toString index

/-- What the next bytes are: a character, a number of bytes that no character continues, or the
start of a character that is cut short. -/
inductive NextChar where
  | char (c : Char) (length : Nat)
  | wrong (length : Nat)
  | cutShort

/-- A byte that continues a character. -/
def isContinuation (value : Nat) : Bool :=
  decide (0x80 ≤ value) && decide (value < 0xc0)

/-- The second byte may follow the first of a longer character: no overlong form, no surrogate,
nothing beyond the last code point. -/
def isSecondByte (first second : Nat) : Bool :=
  if first = 0xe0 then decide (0xa0 ≤ second) && decide (second < 0xc0)
  else if first = 0xed then decide (0x80 ≤ second) && decide (second < 0xa0)
  else if first = 0xf0 then decide (0x90 ≤ second) && decide (second < 0xc0)
  else if first = 0xf4 then decide (0x80 ≤ second) && decide (second < 0x90)
  else isContinuation second

/-- Looks at the first bytes; there is at least one. -/
def nextChar (first : Nat) (rest : List UInt8) : NextChar :=
  if first < 0x80 then .char (Char.ofNat first) 1
  else if first < 0xc2 || 0xf4 < first then .wrong 1
  else
    match rest with
    | [] => .cutShort
    | second :: rest =>
        let second := second.toNat
        if !isSecondByte first second then .wrong 1
        else if first < 0xe0 then .char (Char.ofNat ((first - 0xc0) * 0x40 + (second - 0x80))) 2
        else
          match rest with
          | [] => .cutShort
          | third :: rest =>
              let third := third.toNat
              if !isContinuation third then .wrong 2
              else if first < 0xf0 then
                .char (Char.ofNat
                  (((first - 0xe0) * 0x40 + (second - 0x80)) * 0x40 + (third - 0x80))) 3
              else
                match rest with
                | [] => .cutShort
                | fourth :: _ =>
                    let fourth := fourth.toNat
                    if !isContinuation fourth then .wrong 3
                    else
                      .char (Char.ofNat ((((first - 0xf0) * 0x40 + (second - 0x80)) * 0x40 +
                        (third - 0x80)) * 0x40 + (fourth - 0x80))) 4

/-- Reads bytes as a text; `index` counts the bytes read before and `skip` those of the character
read last. -/
def decodeFrom : Nat → Nat → List UInt8 → Except Utf8Fault (List Char)
  | _, _, [] => .ok []
  | index, skip + 1, _ :: rest => decodeFrom (index + 1) skip rest
  | index, 0, first :: rest =>
      match nextChar first.toNat rest with
      | .char c length => (decodeFrom (index + 1) (length - 1) rest).map (c :: ·)
      | .wrong length => .error (.invalid length index)
      | .cutShort => .error (.incomplete index)

/-- Reads bytes as a text. -/
def decodeText (bytes : List UInt8) : Except Utf8Fault (List Char) :=
  decodeFrom 0 0 bytes

/-- Reads bytes leniently; `skip` counts the bytes already accounted for. -/
def decodeLenientFrom : Nat → List UInt8 → List Char
  | _, [] => []
  | skip + 1, _ :: rest => decodeLenientFrom skip rest
  | 0, first :: rest =>
      match nextChar first.toNat rest with
      | .char c length => c :: decodeLenientFrom (length - 1) rest
      | .wrong length => '\ufffd' :: decodeLenientFrom (length - 1) rest
      | .cutShort => ['\ufffd']

/-- Reads bytes as a text with replacement characters for what cannot be read. -/
def decodeLenient (bytes : List UInt8) : List Char :=
  decodeLenientFrom 0 bytes

end QueryWarden.Bytes

import QueryWarden.Crypto.Aes
import QueryWarden.Crypto.Sha256

/-!
# Galois/counter mode

Authenticated encryption with a 256-bit key, a twelve-byte nonce, a sixteen-byte tag and no
associated data. The text is combined with a key stream made by enciphering a counter, and the tag
is a polynomial hash of the result. Opening recomputes the tag and compares.
-/

namespace QueryWarden.Crypto.Gcm

open QueryWarden.Crypto.Aes (xorBytes)

/-- The bytes in a block, and in a tag. -/
def blockSize : Nat := 16

/-- Bytes as a number, the first byte highest. -/
def toNumber (bytes : List UInt8) : Nat :=
  bytes.foldl (fun number byte => number * 256 + byte.toNat) 0

/-- Multiplies two elements of the field. The highest bit is the constant term; `bits` bits of the
right factor, lowest term last, are left. -/
def multiplyFrom : Nat → Nat → Nat → Nat → Nat
  | 0, _, _, product => product
  | bits + 1, left, right, product =>
      let product := if right.testBit bits then product ^^^ left else product
      let shifted := if left.testBit 0 then (left >>> 1) ^^^ (0xe1 <<< 120) else left >>> 1
      multiplyFrom bits shifted right product

/-- The product of two elements of the field. -/
def multiply (left right : Nat) : Nat :=
  multiplyFrom 128 left right 0

/-- Bytes as field elements, the last block filled up with zeros; `blocks` bounds their number. -/
def inBlocks : Nat → List UInt8 → List Nat
  | 0, _ => []
  | _, [] => []
  | blocks + 1, bytes =>
      let block := bytes.take blockSize
      toNumber (block ++ List.replicate (blockSize - block.length) 0) ::
        inBlocks blocks (bytes.drop blockSize)

/-- The hash of a sealed text under a hash key. -/
def hash (key : Nat) (sealedText : List UInt8) : Nat :=
  (inBlocks sealedText.length sealedText ++ [8 * sealedText.length]).foldl
    (fun sum block => multiply (sum ^^^ block) key) 0

/-- The counter block for a nonce. -/
def counterBlock (nonce : List UInt8) (count : Nat) : List UInt8 :=
  nonce ++ Sha256.bigEndian 4 count

/-- The bytes combined with the key stream from a counter on; `blocks` bounds their number. -/
def combine (keys : List (List UInt8)) (nonce : List UInt8) :
    Nat → Nat → List UInt8 → List UInt8
  | 0, _, _ => []
  | _, _, [] => []
  | blocks + 1, count, bytes =>
      xorBytes (bytes.take blockSize) (Aes.encipher keys (counterBlock nonce count)) ++
        combine keys nonce blocks (count + 1) (bytes.drop blockSize)

/-- The bytes combined with the key stream that a nonce gives. -/
def applyStream (keys : List (List UInt8)) (nonce bytes : List UInt8) : List UInt8 :=
  combine keys nonce bytes.length 2 bytes

/-- The tag of a sealed text. -/
def tag (keys : List (List UInt8)) (nonce sealedText : List UInt8) : List UInt8 :=
  let key := toNumber (Aes.encipher keys (List.replicate blockSize 0))
  xorBytes (Sha256.bigEndian blockSize (hash key sealedText))
    (Aes.encipher keys (counterBlock nonce 1))

/-- Seals a text: the enciphered bytes and their tag. -/
def encrypt (key nonce plain : List UInt8) : List UInt8 :=
  let keys := Aes.roundKeys key
  let sealedText := applyStream keys nonce plain
  sealedText ++ tag keys nonce sealedText

/-- Opens what `encrypt` made; nothing if the tag does not fit. -/
def decrypt? (key nonce payload : List UInt8) : Option (List UInt8) :=
  if payload.length < blockSize then none
  else
    let keys := Aes.roundKeys key
    let sealedText := payload.take (payload.length - blockSize)
    if payload.drop (payload.length - blockSize) = tag keys nonce sealedText then
      some (applyStream keys nonce sealedText)
    else none

end QueryWarden.Crypto.Gcm

import QueryWarden.Bytes.Base64
import QueryWarden.Crypto.Gcm

/-!
# Sealed connection strings

Connection strings are sealed before they are stored: enciphered under the digest of a secret with a
fresh nonce, and written as a mark followed by base64. Opening accepts exactly what sealing writes.
-/

namespace QueryWarden.Connections

open QueryWarden.Bytes QueryWarden.Crypto

/-- The mark in front of a sealed text. -/
def sealMark : String := "enc:v1:"

/-- The bytes in a nonce. -/
def nonceSize : Nat := 12

/-- The secret used when none is configured. -/
def developmentKey : String := "nl2sql-gate-development-key"

/-- Seals texts under one secret. -/
structure Cipher where
  key : List UInt8
  deriving DecidableEq, Repr

/-- Why a stored text cannot be opened. -/
inductive SealFault where
  | notSealed
  | malformed (fault : Base64.Fault)
  | truncated
  | cannotDecrypt
  | notText (fault : Utf8Fault)
  deriving DecidableEq, Repr

/-- The fault in words. -/
def SealFault.message : SealFault → String
  | .notSealed => "stored value is not sealed"
  | .malformed fault => "malformed sealed value: " ++ fault.message
  | .truncated => "sealed value is truncated"
  | .cannotDecrypt => "cannot decrypt value; was the key changed?"
  | .notText fault => fault.message

namespace Cipher

/-- The cipher of a secret. -/
def ofSecret (secret : String) : Cipher :=
  ⟨Sha256.digest (encodeText secret.toList)⟩

/-- The bytes of a sealed text after its mark: the nonce, the enciphered text and the tag. -/
def payload (cipher : Cipher) (nonce : List UInt8) (plain : String) : List UInt8 :=
  nonce ++ Gcm.encrypt cipher.key nonce (encodeText plain.toList)

/-- Seals a text with a nonce, which must not be used twice under one secret. -/
def sealText (cipher : Cipher) (nonce : List UInt8) (plain : String) : String :=
  String.ofList (sealMark.toList ++
    (Base64.encode (cipher.payload nonce plain)).map fun symbol => Char.ofNat symbol.toNat)

/-- The text that follows the mark. -/
def afterMark? (stored : List Char) : Option (List Char) :=
  if sealMark.toList.isPrefixOf stored then some (stored.drop sealMark.toList.length) else none

/-- Opens a payload. -/
def openPayload (cipher : Cipher) (payload : List UInt8) : Except SealFault String :=
  if payload.length ≤ nonceSize then .error .truncated
  else
    match Gcm.decrypt? cipher.key (payload.take nonceSize) (payload.drop nonceSize) with
    | none => .error .cannotDecrypt
    | some plain =>
        match decodeText plain with
        | .ok text => .ok (String.ofList text)
        | .error fault => .error (.notText fault)

/-- Opens a stored text. -/
def openText (cipher : Cipher) (stored : String) : Except SealFault String :=
  match afterMark? stored.toList with
  | none => .error .notSealed
  | some symbols =>
      match Base64.decode (encodeText symbols) with
      | .error fault => .error (.malformed fault)
      | .ok payload => cipher.openPayload payload

end Cipher

end QueryWarden.Connections

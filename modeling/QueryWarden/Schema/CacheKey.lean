import QueryWarden.Bytes.Utf8
import QueryWarden.Crypto.SipHash
import QueryWarden.Text.Numeral

/-!
# Cache keys

A snapshot is cached under the id of its connection and a digest of the connection string, so that a
changed string misses. All keys of one connection start alike.
-/

namespace QueryWarden.Schema

open QueryWarden.Text

/-- What all keys of a connection start with. -/
def keyOpening (id : Int) : List Char :=
  "schema_".toList ++ integerNumeral id ++ ['_']

/-- The digest of a text, whose bytes end in one that no text holds. -/
def textDigest (text : List Char) : UInt64 :=
  Crypto.SipHash.digest (Bytes.encodeText text ++ [0xff])

/-- The key of a connection with a connection string. -/
def cacheKey (id : Int) (connectionString : String) : String :=
  String.ofList (keyOpening id ++ paddedHex 16 (textDigest connectionString.toList).toNat)

/-- What all keys of a connection start with, as a string. -/
def connectionOpening (id : Int) : String :=
  String.ofList (keyOpening id)

end QueryWarden.Schema

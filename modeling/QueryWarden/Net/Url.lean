import QueryWarden.Net.Ipv6
import QueryWarden.Net.Percent
import QueryWarden.Text.Trim

/-!
# URLs

Absolute URLs taken apart, and written again in normal form. Host names outside ASCII are kept as
they are.
-/

namespace QueryWarden.Net

open QueryWarden.Text

/-- Why a text is no URL. -/
inductive UrlFault where
  | noBase
  | emptyHost
  | invalidPort
  | invalidIpv4
  | invalidIpv6
  | invalidDomain
  deriving DecidableEq, Repr

/-- The fault in words. -/
def UrlFault.message : UrlFault → String
  | .noBase => "relative URL without a base"
  | .emptyHost => "empty host"
  | .invalidPort => "invalid port number"
  | .invalidIpv4 => "invalid IPv4 address"
  | .invalidIpv6 => "invalid IPv6 address"
  | .invalidDomain => "invalid domain character"

/-- A URL in parts. The path keeps what follows the host up to a question mark or a number sign. -/
structure Url where
  scheme : List Char
  username : List Char
  password : Option (List Char)
  host : Option (List Char)
  port : Option Nat
  path : List Char
  query : Option (List Char)
  fragment : Option (List Char)
  deriving DecidableEq, Repr

/-- The schemes whose URLs always have a host, with their ports. -/
def specialPorts : List (List Char × Nat) :=
  [("http".toList, 80), ("https".toList, 443), ("ws".toList, 80), ("wss".toList, 443),
   ("ftp".toList, 21)]

/-- The URLs of the scheme always have a host. -/
def isSpecial (scheme : List Char) : Bool :=
  (specialPorts.lookup scheme).isSome

/-! ## Hosts -/

/-- The characters that no host holds. -/
def forbiddenHostChars : List Char :=
  ['\x00', '\t', '\n', '\r', ' ', '#', '/', ':', '<', '>', '?', '@', '[', '\\', ']', '^', '|']

/-- A number of an address in decimal, or after a zero in octal, or after a mark in hexadecimal. -/
def addressPart? (text : List Char) : Option Nat :=
  let inBase (base : Nat) (digits : List Char) : Option Nat :=
    digits.foldl (fun value? c => do
      let value ← value?
      let digit ← hexValue? c
      if digit < base then some (value * base + digit) else none) (some 0)
  match text with
  | [] => none
  | '0' :: 'x' :: digits | '0' :: 'X' :: digits => inBase 16 digits
  | '0' :: digit :: digits => inBase 8 (digit :: digits)
  | digits => inBase 10 digits

/-- The host ends in a number and so must be an address. -/
def endsInNumber (host : List Char) : Bool :=
  let parts := splitWhere (· == '.') host
  let last :=
    match parts.reverse with
    | [] :: last :: _ => last
    | last :: _ => last
    | [] => []
  !last.isEmpty && (last.all Char.isDigit || (addressPart? last).isSome)

/-- The four numbers of an address. -/
def ipv4? (host : List Char) : Option (List Nat) := do
  let parts := splitWhere (· == '.') host
  let parts := if 1 < parts.length && parts.getLast? == some [] then parts.dropLast else parts
  guard (parts.length ≤ 4)
  let values ← parts.mapM addressPart?
  guard (values.dropLast.all (· < 256))
  let last ← values.getLast?
  let free := 4 - values.dropLast.length
  guard (last < Nat.pow 256 free)
  some (values.dropLast ++
    (List.range free).reverse.map fun place => last / Nat.pow 256 place % 256)

/-- The address in its normal form. -/
def ipv4Text (numbers : List Nat) : List Char :=
  joinWith ['.'] (numbers.map decimalNumeral)

/-- The host of a URL in its normal form. -/
def parseHost (special : Bool) (host : List Char) : Except UrlFault (List Char) :=
  match host with
  | '[' :: inner =>
      if inner.getLast? = some ']' then
        match ipv6? inner.dropLast with
        | some groups => .ok ('[' :: ipv6Text groups ++ [']'])
        | none => .error .invalidIpv6
      else .error .invalidIpv6
  | _ =>
      if special then
        let decoded := asciiLower (Bytes.decodeLenient (percentDecode host))
        if decoded.any fun c =>
            forbiddenHostChars.contains c || c == '%' || c.toNat < 32 || c.toNat == 127 then
          .error .invalidDomain
        else if endsInNumber decoded then
          match ipv4? decoded with
          | some numbers => .ok (ipv4Text numbers)
          | none => .error .invalidIpv4
        else .ok decoded
      else if host.any forbiddenHostChars.contains then .error .invalidDomain
      else .ok (percentEncode [] host)

/-! ## Paths -/

/-- What is encoded in a path. -/
def pathSet : List Char := [' ', '"', '#', '<', '>', '?', '^', '\x60', '\x7b', '\x7d']

/-- What is encoded in a user name or a password. -/
def userSet : List Char := pathSet ++ ['/', ':', ';', '=', '@', '[', '\\', ']', '|']

/-- The segment stays in its place. -/
def isHere (segment : List Char) : Bool :=
  [".".toList, "%2e".toList].contains (asciiLower segment)

/-- The segment goes back by one. -/
def isBack (segment : List Char) : Bool :=
  ["..".toList, ".%2e".toList, "%2e.".toList, "%2e%2e".toList].contains (asciiLower segment)

/-- The segments of a path with those that go nowhere or back resolved; `done` holds those before,
latest first. -/
def resolveSegments : List (List Char) → List (List Char) → List (List Char)
  | [], done => done.reverse
  | segment :: segments, done =>
      if isBack segment then
        resolveSegments segments (if segments.isEmpty then [] :: done.drop 1 else done.drop 1)
      else if isHere segment then
        resolveSegments segments (if segments.isEmpty then [] :: done else done)
      else resolveSegments segments (percentEncode pathSet segment :: done)

/-- A path in its normal form. -/
def normalPath (special : Bool) (path : List Char) : List Char :=
  let isSlash (c : Char) : Bool := c == '/' || (special && c == '\\')
  match path with
  | [] => if special then ['/'] else []
  | c :: rest =>
      let segments := splitWhere isSlash (if isSlash c then rest else c :: rest)
      '/' :: joinWith ['/'] (resolveSegments segments [])

/-! ## Reading -/

/-- What follows the last `@` and what comes before it, if there is one. -/
def splitUser (authority : List Char) : Option (List Char) × List Char :=
  if authority.contains '@' then
    let reversed := authority.reverse
    (some ((reversed.dropWhile (· != '@')).drop 1).reverse,
      (reversed.takeWhile (· != '@')).reverse)
  else (none, authority)

/-- A host cut from the port that may follow it. -/
def splitPort (text : List Char) : List Char × Option (List Char) :=
  let host :=
    if text.head? = some '[' then
      let inner := text.takeWhile (· != ']')
      text.take (inner.length + 1)
    else text.takeWhile (· != ':')
  match text.drop host.length with
  | ':' :: port => (host, some port)
  | _ => (host, none)

/-- The number of a port. An empty one is as good as none. -/
def parsePort (text : Option (List Char)) : Except UrlFault (Option Nat) :=
  match text with
  | none | some [] => .ok none
  | some digits =>
      match readNat? digits with
      | some port => if port < 65536 then .ok (some port) else .error .invalidPort
      | none => .error .invalidPort

/-- What follows a mark, if it is there, and what comes before it. -/
def splitMark (mark : Char) (text : List Char) : List Char × Option (List Char) :=
  match text.dropWhile (· != mark) with
  | [] => (text, none)
  | _ :: rest => (text.takeWhile (· != mark), some rest)

/-- A URL with an authority, from the authority on. -/
def parseAuthority (scheme rest : List Char) (query fragment : Option (List Char)) :
    Except UrlFault Url := do
  let special := isSpecial scheme
  let authority := rest.takeWhile fun c => c != '/' && !(special && c == '\\')
  let path := rest.drop authority.length
  let (user, hostAndPort) := splitUser authority
  let (host, port) := splitPort hostAndPort
  if host.isEmpty && (special || port.isSome || user.isSome) then .error .emptyHost
  else
    let host ← parseHost special host
    let port ← parsePort port
    let (name, password) := splitMark ':' (user.getD [])
    .ok
      { scheme, query, fragment
        username := percentEncode userSet name
        password := (password.filter fun text => !text.isEmpty).map (percentEncode userSet)
        host := some host
        port := if port = specialPorts.lookup scheme then none else port
        path := normalPath special path }

/-- Reads a text as an absolute URL. Blanks around it and line breaks in it do not count. -/
def Url.parse (text : List Char) : Except UrlFault Url :=
  let isEdge (c : Char) : Bool := decide (c.toNat ≤ 32)
  let text := (dropEndWhile isEdge (text.dropWhile isEdge)).filter fun c =>
    c != '\t' && c != '\n' && c != '\r'
  let isSchemeChar (c : Char) : Bool := c.isAlphanum || c == '+' || c == '-' || c == '.'
  let scheme := text.takeWhile isSchemeChar
  match text.drop scheme.length with
  | ':' :: rest =>
      if !scheme.head?.any Char.isAlpha then .error .noBase
      else
        let scheme := asciiLower scheme
        let (rest, fragment) := splitMark '#' rest
        let (rest, query) := splitMark '?' rest
        let querySet := [' ', '"', '#', '<', '>'] ++ (if isSpecial scheme then ['\''] else [])
        let query := query.map (percentEncode querySet)
        let fragment := fragment.map (percentEncode [' ', '"', '<', '>', '\x60'])
        if isSpecial scheme then
          parseAuthority scheme (rest.dropWhile fun c => c == '/' || c == '\\') query fragment
        else
          match rest with
          | '/' :: '/' :: rest => parseAuthority scheme rest query fragment
          | _ =>
              let path := if rest.head? = some '/' then normalPath false rest
                else percentEncode [] rest
              .ok ⟨scheme, [], none, none, none, path, query, fragment⟩
  | _ => .error .noBase

/-! ## Writing -/

/-- The URL in normal form. -/
def Url.text (url : Url) : String :=
  let user :=
    match url.username, url.password with
    | [], none => []
    | name, none => name ++ ['@']
    | name, some password => name ++ ':' :: password ++ ['@']
  let authority :=
    match url.host with
    | some host =>
        "//".toList ++ user ++ host ++
          (url.port.map fun port => ':' :: decimalNumeral port).getD []
    | none => []
  String.ofList (url.scheme ++ ':' :: authority ++ url.path ++
    (url.query.map fun query => '?' :: query).getD [] ++
    (url.fragment.map fun fragment => '#' :: fragment).getD [])

/-- The URL without user name and password. -/
def Url.withoutUser (url : Url) : Url :=
  { url with username := [], password := none }

end QueryWarden.Net

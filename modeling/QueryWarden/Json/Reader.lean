import QueryWarden.Json.Scan
import QueryWarden.Json.Value

/-!
# Reading and skipping values

`readValue` reads any value, at most 127 brackets deep. `skipValue` passes over one at any depth and
keeps nothing of it; it still refuses what is not JSON.
-/

namespace QueryWarden.Json

/-- How many brackets may be open at once, and one more. -/
def depthLimit : Nat := 128

/-- The depth left inside one more bracket. -/
def enter (depth : Nat) (text : List Char) : Except Fault Nat :=
  if depth ≤ 1 then failAt .tooDeep text else .ok (depth - 1)

/-! ## Commas and ends -/

/-- What stands after an opening bracket or after a part: the text of another part, or the text
after the closing bracket. -/
inductive Next where
  | another (text : List Char)
  | ended (text : List Char)

/-- Looks for the next item of a list. -/
def nextItem (isFirst : Bool) (text : List Char) : Except Fault Next :=
  match dropSpace text with
  | [] => failHere .endInList []
  | c :: rest =>
      if c = ']' then .ok (.ended rest)
      else if isFirst then .ok (.another (c :: rest))
      else if c = ',' then
        match dropSpace rest with
        | [] => failHere .endInValue []
        | d :: rest =>
            if d = ']' then failAt .trailingComma (d :: rest) else .ok (.another (d :: rest))
      else failAt .expectedListCommaOrEnd (c :: rest)

/-- The closing bracket of a list that has all the items wanted. -/
def closeList (text : List Char) : Except Fault (List Char) :=
  match dropSpace text with
  | [] => failHere .endInList []
  | c :: rest =>
      if c = ']' then .ok rest
      else if c = ',' then
        let rest := dropSpace rest
        if rest.head? = some ']' then failAt .trailingComma rest
        else failAt .trailingCharacters rest
      else failAt .trailingCharacters (c :: rest)

/-- Looks for the next member of an object: its text starts after the opening quote of its name. -/
def nextMember (isFirst : Bool) (text : List Char) : Except Fault Next :=
  match dropSpace text with
  | [] => failHere .endInObject []
  | c :: rest =>
      if c = '\x7d' then .ok (.ended rest)
      else if isFirst then
        if c = '"' then .ok (.another rest) else failAt .keyMustBeText (c :: rest)
      else if c = ',' then
        match dropSpace rest with
        | [] => failHere .endInValue []
        | d :: rest =>
            if d = '"' then .ok (.another rest)
            else if d = '\x7d' then failAt .trailingComma (d :: rest)
            else failAt .keyMustBeText (d :: rest)
      else failAt .expectedObjectCommaOrEnd (c :: rest)

/-- The colon between a name and its value. -/
def scanColon (text : List Char) : Except Fault (List Char) :=
  match dropSpace text with
  | [] => failHere .endInObject []
  | c :: rest => if c = ':' then .ok rest else failAt .expectedColon (c :: rest)

/-- The rest of a member's name and the colon after it. -/
def scanName (text : List Char) : Except Fault ((List Char) × List Char) := do
  let (name, rest) ← scanText text
  .ok (name, ← scanColon rest)

/-- After a skipped item: another one or the end. -/
def skipToItem (text : List Char) : Except Fault Next :=
  match dropSpace text with
  | [] => failHere .endInList []
  | c :: rest =>
      if c = ',' then .ok (.another rest)
      else if c = ']' then .ok (.ended rest)
      else failAt .expectedListCommaOrEnd (c :: rest)

/-- After a skipped member: another one or the end. -/
def skipToMember (text : List Char) : Except Fault Next :=
  match dropSpace text with
  | [] => failHere .endInObject []
  | c :: rest =>
      if c = ',' then .ok (.another rest)
      else if c = '\x7d' then .ok (.ended rest)
      else failAt .expectedObjectCommaOrEnd (c :: rest)

/-- Passes over a member's name and colon. -/
def skipName (text : List Char) : Except Fault (List Char) :=
  match dropSpace text with
  | [] => failHere .endInObject []
  | c :: rest =>
      if c = '"' then do scanColon (← skipText rest) else failAt .keyMustBeText (c :: rest)

/-! ## Skipping -/

mutual

/-- Passes over one value. -/
def skipValueFrom : Nat → List Char → Except Fault (List Char)
  | 0, text => failHere .endInValue text
  | fuel + 1, text =>
      match dropSpace text with
      | [] => failHere .endInValue []
      | c :: rest =>
          if c = 'n' then scanWord "ull".toList rest
          else if c = 't' then scanWord "rue".toList rest
          else if c = 'f' then scanWord "alse".toList rest
          else if c = '-' then skipNumber rest
          else if c.isDigit then skipNumber (c :: rest)
          else if c = '"' then skipText rest
          else if c = '[' then
            if (dropSpace rest).head? = some ']' then .ok ((dropSpace rest).drop 1)
            else if (dropSpace rest).isEmpty then failHere .endInList []
            else skipItemsFrom fuel rest
          else if c = '\x7b' then
            if (dropSpace rest).head? = some '\x7d' then .ok ((dropSpace rest).drop 1)
            else skipMembersFrom fuel rest
          else failAt .expectedValue (c :: rest)

/-- Passes over the items of a list and its closing bracket. -/
def skipItemsFrom : Nat → List Char → Except Fault (List Char)
  | 0, text => failHere .endInList text
  | fuel + 1, text =>
      match skipValueFrom fuel text with
      | .error fault => .error fault
      | .ok rest =>
          match skipToItem rest with
          | .error fault => .error fault
          | .ok (.another rest) => skipItemsFrom fuel rest
          | .ok (.ended rest) => .ok rest

/-- Passes over the members of an object and its closing brace. -/
def skipMembersFrom : Nat → List Char → Except Fault (List Char)
  | 0, text => failHere .endInObject text
  | fuel + 1, text =>
      match (skipName text).bind (skipValueFrom fuel) with
      | .error fault => .error fault
      | .ok rest =>
          match skipToMember rest with
          | .error fault => .error fault
          | .ok (.another rest) => skipMembersFrom fuel rest
          | .ok (.ended rest) => .ok rest

end

/-- Passes over one value at any depth. -/
def skipValue (text : List Char) : Except Fault (List Char) :=
  skipValueFrom (2 * text.length + 2) text

/-! ## Reading -/

/-- The value of a number. -/
def Number.toValue : Number → Value
  | .whole value => .integer value
  | .float value => .float value

mutual

/-- Reads one value with `depth` brackets to spare. -/
def readValueFrom : Nat → Nat → List Char → Except Fault (Value × List Char)
  | 0, _, text => failHere .endInValue text
  | fuel + 1, depth, text =>
      match dropSpace text with
      | [] => failHere .endInValue []
      | c :: rest =>
          if c = 'n' then (scanWord "ull".toList rest).map fun rest => (.null, rest)
          else if c = 't' then (scanWord "rue".toList rest).map fun rest => (.bool true, rest)
          else if c = 'f' then (scanWord "alse".toList rest).map fun rest => (.bool false, rest)
          else if c = '-' then (scanNumber false rest).map fun (n, rest) => (n.toValue, rest)
          else if c.isDigit then
            (scanNumber true (c :: rest)).map fun (n, rest) => (n.toValue, rest)
          else if c = '"' then
            (scanText rest).map fun (text, rest) => (.text (String.ofList text), rest)
          else if c = '[' then
            match enter depth (c :: rest) with
            | .error fault => .error fault
            | .ok depth => readItemsFrom fuel depth true rest []
          else if c = '\x7b' then
            match enter depth (c :: rest) with
            | .error fault => .error fault
            | .ok depth => readMembersFrom fuel depth true rest []
          else failAt .expectedValue (c :: rest)

/-- Reads the items of a list; `items` holds those read, latest first. -/
def readItemsFrom :
    Nat → Nat → Bool → List Char → List Value → Except Fault (Value × List Char)
  | 0, _, _, text, _ => failHere .endInList text
  | fuel + 1, depth, isFirst, text, items =>
      match nextItem isFirst text with
      | .error fault => .error fault
      | .ok (.ended rest) => .ok (.list items.reverse, rest)
      | .ok (.another text) =>
          match readValueFrom fuel depth text with
          | .error fault => .error (fault.within (.element items.length))
          | .ok (item, rest) => readItemsFrom fuel depth false rest (item :: items)

/-- Reads the members of an object. A repeated name keeps its first place and its last value. -/
def readMembersFrom :
    Nat → Nat → Bool → List Char → List (String × Value) → Except Fault (Value × List Char)
  | 0, _, _, text, _ => failHere .endInObject text
  | fuel + 1, depth, isFirst, text, members =>
      match nextMember isFirst text with
      | .error fault => .error fault
      | .ok (.ended rest) => .ok (.object members, rest)
      | .ok (.another text) =>
          match scanName text with
          | .error fault => .error fault
          | .ok (name, rest) =>
              match readValueFrom fuel depth rest with
              | .error fault => .error (fault.within (.field name))
              | .ok (value, rest) =>
                  readMembersFrom fuel depth false rest
                    (setMember (String.ofList name) value members)

end

/-- Reads one value. -/
def readValue (depth : Nat) (text : List Char) : Except Fault (Value × List Char) :=
  readValueFrom (2 * text.length + 2) depth text

end QueryWarden.Json

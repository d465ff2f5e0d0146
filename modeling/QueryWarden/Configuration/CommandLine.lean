import QueryWarden.Configuration.Fault

/-!
# The command line

The words that the service is started with. An option takes the word after it, or what is attached
to it, as its value; a word that looks like an option is never a value. An option is looked at as
soon as the next one comes, so that of several faults the leftmost counts, except that an unknown
word is refused at once.
-/

namespace QueryWarden.Configuration

open QueryWarden.Text

/-- An option that takes a value. -/
inductive Flag where
  | config
  | host
  | port
  | database
  | backend
  | model
  deriving DecidableEq, Repr

/-- What a word asks for. -/
inductive Asked where
  | flag (flag : Flag)
  | help
  | version
  deriving DecidableEq, Repr

/-- The long names. -/
def longNames : List (String × Asked) :=
  [("config", .flag .config), ("host", .flag .host), ("port", .flag .port),
   ("database", .flag .database), ("llm-backend", .flag .backend), ("llm-model", .flag .model),
   ("help", .help), ("version", .version)]

/-- The short names. -/
def shortNames : List (Char × Asked) :=
  [('c', .flag .config), ('p', .flag .port), ('h', .help), ('V', .version)]

/-- The values of the options that were given. -/
structure CommandLine where
  config : Option String
  host : Option String
  port : Option Nat
  database : Option String
  backend : Option String
  model : Option String
  deriving DecidableEq, Repr

/-- No option given. -/
def CommandLine.empty : CommandLine := ⟨none, none, none, none, none, none⟩

/-- Gives an option its value, unless it has one. -/
def CommandLine.give (line : CommandLine) (flag : Flag) (value : String) :
    Except CommandLineFault CommandLine :=
  let once {α : Type} (given : Option α) (line : CommandLine) :
      Except CommandLineFault CommandLine :=
    if given.isSome then .error .repeatedArgument else .ok line
  match flag with
  | .config =>
      (once line.config { line with config := some value }).bind fun line =>
        if value.isEmpty then .error .missingValue else .ok line
  | .host => once line.host { line with host := some value }
  | .port =>
      (once line.port line).bind fun line =>
        match (WordRange.signed 64).read value.toList with
        | .ok port =>
            if 0 ≤ port ∧ port < Int.pow 2 16 then .ok { line with port := some port.toNat }
            else .error .badValue
        | .error _ => .error .badValue
  | .database => once line.database { line with database := some value }
  | .backend => once line.backend { line with backend := some value }
  | .model => once line.model { line with model := some value }

/-- The words under way: the options looked at, the latest one with its value if it has come, and
whether only plain words may follow. -/
structure Reading where
  line : CommandLine
  pending : Option (Flag × Option String)
  isPlain : Bool

/-- Looks at the latest option. -/
def Reading.settle (reading : Reading) : Except CommandLineFault CommandLine :=
  match reading.pending with
  | none => .ok reading.line
  | some (_, none) => .error .missingValue
  | some (flag, some value) => reading.line.give flag value

/-- Takes what a name asks for, with the value attached to it. -/
def Reading.take (reading : Reading) (asked : Option Asked) (attached : Option String) :
    Except CommandLineFault Reading :=
  match asked, attached with
  | none, _ => .error .unknownArgument
  | some (.flag flag), some value => do
      let line ← (← reading.settle).give flag value
      .ok { reading with line, pending := none }
  | some (.flag flag), none => do
      .ok { reading with line := ← reading.settle, pending := some (flag, none) }
  | some _, some _ => .error .needlessValue
  | some .help, none => do
      let _ ← reading.settle
      .error .help
  | some .version, none => do
      let _ ← reading.settle
      .error .version

/-- Takes the word after an option as its value. -/
def Reading.takeValue (reading : Reading) (word : String) : Except CommandLineFault Reading :=
  match reading.isPlain, reading.pending with
  | false, some (flag, none) => .ok { reading with pending := some (flag, some word) }
  | _, _ => .error .unknownArgument

/-- Takes a word. -/
def Reading.takeWord (reading : Reading) (word : String) : Except CommandLineFault Reading :=
  if reading.isPlain then reading.takeValue word
  else
    match word.toList with
    | ['-', '-'] => .ok { reading with isPlain := true }
    | '-' :: '-' :: text =>
        let name := text.takeWhile (· != '=')
        reading.take (longNames.lookup (String.ofList name))
          ((text.drop name.length).tail?.map String.ofList)
    | '-' :: c :: text =>
        match shortNames.lookup c, text with
        | some (.flag flag), '=' :: value =>
            reading.take (some (.flag flag)) (some (String.ofList value))
        | some (.flag flag), _ :: _ =>
            reading.take (some (.flag flag)) (some (String.ofList text))
        | asked, _ => reading.take asked none
    | _ => reading.takeValue word

/-- Reads the words of a command line. -/
def CommandLine.parse (words : List String) : Except CommandLineFault CommandLine := do
  let reading ← words.foldlM Reading.takeWord ⟨.empty, none, false⟩
  reading.settle

end QueryWarden.Configuration

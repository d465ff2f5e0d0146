import QueryWarden.Configuration.Tree
import QueryWarden.Decimal.Positional
import QueryWarden.Text.Quoted

/-!
# Faults of the configuration

Why settings cannot be had. Faults of a value name the way to it, and where it comes from if that is
known.
-/

namespace QueryWarden.Configuration

open QueryWarden.Decimal QueryWarden.Text

/-- What was found where something else was expected. -/
inductive Found where
  | bool (value : Bool)
  | integer (value : Int)
  | unsigned (value : Nat)
  | float (value : Float)
  | text (value : String)
  | nothing
  | list
  | table

/-- Why the words of the command line are refused, or what is shown instead of running. -/
inductive CommandLineFault where
  | unknownArgument
  | missingValue
  | badValue
  | repeatedArgument
  | needlessValue
  | help
  | version
  deriving DecidableEq, Repr

/-- Why there are no settings. -/
inductive Fault where
  | commandLine (fault : CommandLineFault)
  /-- The configuration file is no document. -/
  | unreadableFile
  | missingFile (path : String)
  /-- A scalar cannot be taken for what is expected. -/
  | wrongType (found : Found) (expected : String) (way : List Step) (origin : Origin)
  /-- A section or a choice has another shape than it should. -/
  | unfit (detail : String) (way : List Step)
  | missing (way : List Step)

/-! ## Wording -/

/-- The found value of a scalar in words, with the width of numbers. -/
def Found.describe : Found → String
  | .bool value => "boolean \x60" ++ toString value ++ "\x60"
  | .integer value => "64-bit integer \x60" ++ toString value ++ "\x60"
  | .unsigned value => "64-bit unsigned integer \x60" ++ toString value ++ "\x60"
  | .float value => "floating point \x60" ++ String.ofList (positionalNumeral value) ++ "\x60"
  | .text value => "string " ++ String.ofList (quoted value.toList)
  | .nothing => "unit value"
  | .list => "sequence"
  | .table => "map"

/-- The found value of a section in words. -/
def Found.describeShape : Found → String
  | .integer value => "integer \x60" ++ toString value ++ "\x60"
  | .unsigned value => "integer \x60" ++ toString value ++ "\x60"
  | .float value => "floating point \x60" ++ String.ofList (pointedNumeral value) ++ "\x60"
  | found => found.describe

/-- A way in words: a point stands before a key unless an index comes before it. -/
def describeWay : List Step → String
  | [] => ""
  | [.key name] => name
  | .key name :: .index position :: way => name ++ describeWay (.index position :: way)
  | .key name :: .key next :: way => name ++ "." ++ describeWay (.key next :: way)
  | .index position :: way => "[" ++ toString position ++ "]" ++ describeWay way

/-- Where a value stands in words, if there is a way to it. -/
def describePlace (way : List Step) : String :=
  if way.isEmpty then "" else " for key \x60" ++ describeWay way ++ "\x60"

/-- The fault in words. -/
def Fault.message : Fault → String
  | .commandLine _ | .unreadableFile => ""
  | .missingFile path => "configuration file \"" ++ path ++ "\" not found"
  | .wrongType found expected way origin =>
      "invalid type: " ++ found.describe ++ ", expected " ++ expected ++ describePlace way ++
        (match origin with
        | some origin => " in " ++ origin
        | none => "")
  | .unfit detail way => detail ++ describePlace way
  | .missing way =>
      "missing configuration field " ++ String.ofList (quoted (describeWay way).toList)

/-! ## Placing -/

/-- The fault, one step further from the top. -/
def Fault.within (step : Step) : Fault → Fault
  | .wrongType found expected way origin => .wrongType found expected (step :: way) origin
  | .unfit detail way => .unfit detail (step :: way)
  | .missing way => .missing (step :: way)
  | fault => fault

/-- What was read, with faults placed one step further from the top. -/
def placedAt {α : Type} (step : Step) (outcome : Except Fault α) : Except Fault α :=
  outcome.mapError (Fault.within step)

end QueryWarden.Configuration

import Crater.Decimal.Read
/-!
# Options of the demo

The arguments are read from left to right in groups: an option with its value, or one that takes none.
If an option is given more than once the last value counts. The first group that does not fit decides
what is reported.
-/

namespace Crater.Demo

structure Options where
  /-- Path of a configuration file. -/
  config : Option String := none
  /-- Path of a palette file. -/
  blocks : Option String := none
  seed : UInt64 := 42
  radius : Option Float32 := none
  fire : Bool := false

inductive OptionFault where
  | unknown (argument : String)
  | missingValue (argument : String)
  | badSeed (fault : Decimal.NaturalFault)
  | badRadius (fault : Decimal.NumberFault)
  deriving DecidableEq

def seedReason : Decimal.NaturalFault → String
  | .empty => "cannot parse integer from empty string"
  | .invalidDigit => "invalid digit found in string"
  | .tooLarge => "number too large to fit in target type"

def radiusReason : Decimal.NumberFault → String
  | .empty => "cannot parse float from empty string"
  | .invalid => "invalid float literal"

def OptionFault.message : OptionFault → String
  | unknown argument => "unknown argument: " ++ argument
  | missingValue argument => argument ++ " needs a value"
  | badSeed fault => "bad seed: " ++ seedReason fault
  | badRadius fault => "bad radius: " ++ radiusReason fault

namespace Options

inductive Key where
  | config
  | blocks
  | seed
  | radius
  deriving DecidableEq

def Key.ofArgument? : String → Option Key
  | "--config" => some config
  | "--blocks" => some blocks
  | "--seed" => some seed
  | "--radius" => some radius
  | _ => none

def assign (options : Options) (key : Key) (value : String) : Except OptionFault Options :=
  match key with
  | .config => .ok { options with config := some value }
  | .blocks => .ok { options with blocks := some value }
  | .seed =>
    match Decimal.readNatural UInt64.size value with
    | .ok n => .ok { options with seed := n.toUInt64 }
    | .error fault => .error (.badSeed fault)
  | .radius =>
    match Decimal.readNumber value with
    | .ok literal => .ok { options with radius := some literal.toSingle }
    | .error fault => .error (.badRadius fault)

/-- Reads arguments on top of the options that are already chosen. -/
def readFrom (options : Options) : List String → Except OptionFault Options
  | [] => .ok options
  | argument :: rest =>
    match Key.ofArgument? argument with
    | some key =>
      match rest with
      | [] => .error (.missingValue argument)
      | value :: rest =>
        match options.assign key value with
        | .ok options => options.readFrom rest
        | .error fault => .error fault
    | none =>
      if argument == "--fire" then { options with fire := true }.readFrom rest
      else .error (.unknown argument)

def read (arguments : List String) : Except OptionFault Options := readFrom {} arguments

end Options

end Crater.Demo

import Lc3.Files
import Lc3.Machine.Basic
import Lc3.Value.Shown
import Lc3.Yaml.Defect

/-!
Configurations and why one is rejected.
-/

namespace Lc3

/-- A checked configuration: two different keyboard addresses, a positive step limit if any, and
the message of a halt. -/
structure Config where
  status : Word
  data : Word
  stepLimit : Option Nat
  haltMessage : Text
  distinct : status ≠ data
  positive : ∀ limit ∈ stepLimit, 0 < limit
  deriving DecidableEq, Repr

/-- Why a value is no integer, or has no text. -/
inductive ConversionError
  | badNumeral (base : Nat) (shown : String)
  | tooManyDigits (count : Nat)
  | notANumber
  | infinite
  | notNumeric (kind : String)
  | notWritable
  deriving DecidableEq, Repr

def ConversionError.message : ConversionError → String
  | .badNumeral base shown => Numeral.malformedText base shown
  | .tooManyDigits count => Numeral.tooLongText count
  | .notANumber => "cannot convert float NaN to integer"
  | .infinite => "cannot convert float infinity to integer"
  | .notNumeric kind =>
    "int() argument must be a string, a bytes-like object or a real number, not '" ++ kind ++ "'"
  | .notWritable => Numeral.limitText ++ Numeral.limitHint

inductive ConfigError
  | unsupported
  | missingFile (name : Text)
  | unreadableFile (name : String) (error : FileError)
  | malformedFile (name : String) (cause : Option Yaml.ScalarError)
  | notMapping (name : String)
  | unknownKeys (keys : List Text)
  | badType (cause : ConversionError)
  | outOfRange (key : String) (value : Int)
  | sameAddress
  | limitNotPositive
  deriving DecidableEq, Repr

namespace ConfigError

/-- What every complaint about the content of a file begins with. -/
def loadFailed (name : String) : String := "Failed to load config file " ++ name

def message : ConfigError → Text
  | .unsupported => Text.ofString "Unsupported config input"
  | .missingFile name => Text.ofString "Config file not found: " ++ name
  | .unreadableFile name error =>
    Text.ofString (loadFailed name ++ ": " ++ error.describe (Path.ofName name).name)
  | .malformedFile name none => Text.ofString (loadFailed name)
  | .malformedFile name (some cause) => Text.ofString (loadFailed name ++ ": " ++ cause.message)
  | .notMapping name => Text.ofString ("Config file " ++ name ++ " does not contain a mapping")
  | .unknownKeys keys =>
    Text.ofString "Unknown config keys: " ++ (keys.intersperse (Text.ofString ", ")).flatten
  | .badType cause => Text.ofString ("Bad types in config: " ++ cause.message)
  | .outOfRange key value =>
    Text.ofString (key ++ " (" ++ hexText value 1 ++ ") out of address range (0..0xFFFF)")
  | .sameAddress => Text.ofString "kbsr and kbdr must be distinct addresses"
  | .limitNotPositive => Text.ofString "step_limit must be positive or null"

end ConfigError

/-- How loading fails: the configuration is rejected, or its unknown keys cannot even be listed,
or its file cannot be asked for. -/
inductive ConfigFailure
  | rejected (error : ConfigError)
  | incomparableKeys
  | unwritableKey
  | unreachableFile (error : FileError)
  deriving DecidableEq, Repr

end Lc3

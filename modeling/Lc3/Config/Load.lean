import Lc3.Config.Basic
import Lc3.Value.Key
import Lc3.Yaml.Document

/-!
Loading of configurations: from a mapping, or from a file that holds one. What is not mentioned
keeps its default. Unknown keys are reported before anything else, then values of the wrong type
in the order of the keys, then values that are out of range.
-/

namespace Lc3

namespace Value

/-- A quoted form, cut to its first two hundred characters. -/
def abbreviate (quoted : List Char) : String := String.ofList (quoted.take 200)

/-- Converts a value to an integer: numerals are read, floats lose their fraction. -/
def toInt : Value → Except ConversionError Int
  | .int number => .ok number
  | .bool truth => .ok (if truth then 1 else 0)
  | .float .nan => .error .notANumber
  | .float (.infinite _) => .error .infinite
  | .float (.finite negative mantissa exponent) =>
    .ok (Binary64.truncate negative mantissa exponent)
  | .text content =>
    match Numeral.read content with
    | .ok number => .ok number
    | .error .malformed => .error (.badNumeral 0 (abbreviate (Text.quote content)))
    | .error (.tooLong count) => .error (.tooManyDigits count)
  | .bytes _ content =>
    match Numeral.readBytes content with
    | .ok number => .ok number
    | .error .malformed =>
      .error (.badNumeral 10 (abbreviate (Text.quoteBytes (content.take 200) false)))
    | .error (.tooLong count) => .error (.tooManyDigits count)
  | value => .error (.notNumeric value.kind)

/-- The text of a value; nothing is the empty text. -/
def toText : Value → Except ConversionError Text
  | .null => .ok []
  | value =>
    match value.shown? with
    | some content => .ok content
    | none => .error .notWritable

end Value

namespace Config

def statusKey : String := "kbsr"

def dataKey : String := "kbdr"

def stepLimitKey : String := "step_limit"

def haltMessageKey : String := "halt_message"

def keys : List String := [statusKey, dataKey, stepLimitKey, haltMessageKey]

def initial : Config where
  status := 0xFE00
  data := 0xFE02
  stepLimit := none
  haltMessage := defaultHaltMessage
  distinct := by decide
  positive := by simp

def isKey (name : String) : Value → Bool
  | .text content => content == Text.ofString name
  | _ => false

def isKnown (key : Value) : Bool := keys.any fun name => isKey name key

def setting (entries : List (Value × Value)) (name : String) (default : Value) : Value :=
  match entries.find? fun (key, _) => isKey name key with
  | some (_, value) => value
  | none => default

/-- The values of the four keys, of the right types. -/
structure Settings where
  status : Int
  data : Int
  stepLimit : Option Int
  haltMessage : Text

/-- A step limit may be absent. -/
def toLimit : Value → Except ConversionError (Option Int)
  | .null => .ok none
  | value => value.toInt.map some

def convert (entries : List (Value × Value)) : Except ConversionError Settings := do
  let status ← (setting entries statusKey (.int initial.status.toNat)).toInt
  let data ← (setting entries dataKey (.int initial.data.toNat)).toInt
  let stepLimit ← toLimit (setting entries stepLimitKey .null)
  let haltMessage ← (setting entries haltMessageKey (.text initial.haltMessage)).toText
  return { status, data, stepLimit, haltMessage }

def isAddress (number : Int) : Bool := 0 ≤ number && number ≤ 0xFFFF

/-- The word that an address denotes, if it is one. -/
def checkAddress (key : String) (number : Int) : Except ConfigError Word :=
  if isAddress number then .ok (wordOf number) else .error (.outOfRange key number)

def checkLimit (limit : Option Int) :
    Except ConfigError { limit : Option Nat // ∀ count ∈ limit, 0 < count } :=
  match limit with
  | none => .ok ⟨none, by simp⟩
  | some count =>
    if positive : 0 < count then .ok ⟨some count.toNat, by simp; omega⟩
    else .error .limitNotPositive

def check (settings : Settings) : Except ConfigError Config := do
  let status ← checkAddress statusKey settings.status
  let data ← checkAddress dataKey settings.data
  if distinct : status = data then
    throw .sameAddress
  else
    let ⟨stepLimit, positive⟩ ← checkLimit settings.stepLimit
    return { status, data, stepLimit, haltMessage := settings.haltMessage, distinct, positive }

/-- The keys that no configuration has, in order and as texts. -/
def unknownKeys (entries : List (Value × Value)) : Except ConfigFailure (List Text) := do
  let unknown := (entries.map Prod.fst).filter (!isKnown ·)
  match Value.sortKeys? unknown with
  | none => throw .incomparableKeys
  | some sorted =>
    match sorted.mapM Value.shown? with
    | none => throw .unwritableKey
    | some texts => return texts

def ofEntries (entries : List (Value × Value)) : Except ConfigFailure Config := do
  let unknown ← unknownKeys entries
  if unknown ≠ [] then throw (.rejected (.unknownKeys unknown))
  match convert entries with
  | .error cause => throw (.rejected (.badType cause))
  | .ok settings =>
    match check settings with
    | .error error => throw (.rejected error)
    | .ok config => return config

/-- The mapping in a configuration file. A document that is empty counts as an empty mapping. -/
def entriesOfFile (files : Files) (name : String) : Except ConfigFailure (List (Value × Value)) :=
  let path := Path.ofName name
  match files.lookUp path with
  | .error .nameTooLong => .error (.unreachableFile .nameTooLong)
  | .error _ => .error (.rejected (.missingFile (Text.ofString name)))
  | .ok .directory => .error (.rejected (.unreadableFile name .isDirectory))
  | .ok (.file content) =>
    match Yaml.ofBytes content with
    | .error .malformed => .error (.rejected (.malformedFile name none))
    | .error (.scalar error) => .error (.rejected (.malformedFile name (some error)))
    | .ok (.mapping entries) => .ok entries
    | .ok value =>
      if value.isEmpty then .ok [] else .error (.rejected (.notMapping name))

/-- The configuration that an argument asks for: nothing for the defaults, a mapping, or the name
of a file. A name that is no string of characters names no file. -/
def load (files : Files) : Value → Except ConfigFailure Config
  | .null => ofEntries []
  | .mapping entries => ofEntries entries
  | .text name =>
    match name.toString? with
    | some name => do ofEntries (← entriesOfFile files name)
    | none => .error (.rejected (.missingFile name))
  | _ => .error (.rejected .unsupported)

def entries (config : Config) : List (Value × Value) :=
  [(.text (Text.ofString statusKey), .int config.status.toNat),
    (.text (Text.ofString dataKey), .int config.data.toNat),
    (.text (Text.ofString stepLimitKey), match config.stepLimit with
      | some limit => .int limit
      | none => .null),
    (.text (Text.ofString haltMessageKey), .text config.haltMessage)]

def keyboard (config : Config) : Keyboard := ⟨config.status.toNat, config.data.toNat⟩

end Config

/-- A machine with an image, as a configuration asks for it. -/
def Machine.ofConfig (image : Image) (config : Config) (console : Console) : Machine :=
  .load image config.keyboard (config.stepLimit.map Int.ofNat) config.haltMessage console

end Lc3

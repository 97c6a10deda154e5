import EntitySchema.Event
import EntitySchema.Field.Kind
import EntitySchema.Folder
import EntitySchema.Record.DeepTrim
import EntitySchema.Request.Parameters

set_option autoImplicit false

namespace EntitySchema

structure Settings where
  passwords : PasswordPolicy
  sanitizing : SanitizeLimits
  requests : RequestDefaults
deriving DecidableEq

inductive SettingsFault where
  | notLength (name value : String)
  | passwordLengths (low high : Nat)
  | noDepth
  | noRows
  | defaultRows (rows maxRows : UInt64)
deriving DecidableEq

def SettingsFault.message : SettingsFault → String
  | .notLength name value => name ++ " must be a length, got " ++ Quoted.encode value
  | .passwordLengths low high =>
    "password min_length " ++ toString low ++ " is greater than max_length " ++ toString high
  | .noDepth => "sanitize max_depth must be > 0"
  | .noRows => "filter max_rows must be > 0"
  | .defaultRows rows maxRows =>
    "filter default_rows " ++ toString rows ++ " exceeds max_rows " ++ toString maxRows

inductive SettingsError where
  | unreadable (cause : ReadFault)
  | json (cause : Json.ShapeError)
  | invalid (fault : SettingsFault)

namespace SettingsError

def code : SettingsError → String
  | .unreadable _ => "ANTITY_CONFIG_READ"
  | .json _ => "ANTITY_CONFIG_PARSE"
  | .invalid _ => "ANTITY_CONFIG_INVALID"

def message : SettingsError → String
  | .unreadable cause => "Failed to read config: " ++ cause.message
  | .json cause => "Invalid config JSON: " ++ cause.message
  | .invalid fault => "Invalid configuration: " ++ fault.message

end SettingsError

namespace Settings

def standard : Settings := ⟨.standard, .standard, .standard⟩

def read (origin : Json.Origin) : Json.Reader Settings :=
  Json.Reader.record origin "AntityConfig" (["password", "sanitize", "filter"].map Json.Reader.field)
    standard fun settings name tree => do
      match name with
      | "password" => return { settings with passwords := ← PasswordPolicy.read origin tree }
      | "sanitize" => return { settings with sanitizing := ← SanitizeLimits.read origin tree }
      | _ => return { settings with requests := ← RequestDefaults.read origin tree }

def toJson (settings : Settings) : Json :=
  .object
    [("filter", settings.requests.toJson), ("password", settings.passwords.toJson),
     ("sanitize", settings.sanitizing.toJson)]

def fault? (settings : Settings) : Option SettingsFault :=
  if settings.passwords.maxLength < settings.passwords.minLength then
    some (.passwordLengths settings.passwords.minLength settings.passwords.maxLength)
  else if settings.sanitizing.maxDepth = 0 then some .noDepth
  else if settings.requests.maxRows = 0 then some .noRows
  else match settings.requests.rows with
    | some rows =>
      if settings.requests.maxRows < rows then
        some (.defaultRows rows settings.requests.maxRows)
      else none
    | none => none

def checked (settings : Settings) : Except SettingsError Settings :=
  match settings.fault? with
  | some fault => .error (.invalid fault)
  | none => .ok settings

def parse (text : String) : Except SettingsError Settings := do
  (← (Json.readText read text).mapError .json).checked

def parseEvents (text : String) : List Event :=
  match parse text with
  | .ok _ => [.configLoaded]
  | .error _ => []

inductive Variable where
  | minLength
  | maxLength
  | uppercase
  | lowercase
  | numbers
  | symbols
deriving DecidableEq

namespace Variable

def all : List Variable := [.minLength, .maxLength, .uppercase, .lowercase, .numbers, .symbols]

def name : Variable → String
  | .minLength => "PWD_MIN_LENGTH_POLICY"
  | .maxLength => "PWD_MAX_LENGTH_POLICY"
  | .uppercase => "PWD_UPPERCASE_POLICY"
  | .lowercase => "PWD_LOWERCASE_POLICY"
  | .numbers => "PWD_NUMBERS_POLICY"
  | .symbols => "PWD_SYMBOLS_POLICY"

def value? (lookup : String → Option String) (v : Variable) : Option String :=
  (lookup v.name).filter fun value => !value.isEmpty

def length (lookup : String → Option String) (v : Variable) (standard : Nat) :
    Except SettingsError Nat :=
  match v.value? lookup with
  | some value =>
    match readCount? (Blank.trim value) with
    | some n => .ok n.toNat
    | none => .error (.invalid (.notLength v.name value))
  | none => .ok standard

def isSet (lookup : String → Option String) (v : Variable) : Bool := (v.value? lookup).isSome

end Variable

def ofVariables (lookup : String → Option String) : Except SettingsError Settings := do
  let low ← Variable.minLength.length lookup PasswordPolicy.standard.minLength
  let high ← Variable.maxLength.length lookup PasswordPolicy.standard.maxLength
  let policy : PasswordPolicy :=
    { minLength := low
      maxLength := high
      requireUppercase := Variable.uppercase.isSet lookup
      requireLowercase := Variable.lowercase.isSet lookup
      requireNumber := Variable.numbers.isSet lookup
      requireSpecial := Variable.symbols.isSet lookup }
  { standard with passwords := policy }.checked

def types (settings : Settings) : TypeRegistry := .builtin settings.passwords

end Settings

end EntitySchema

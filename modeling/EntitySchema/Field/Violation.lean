import EntitySchema.Json.Writer

set_option autoImplicit false

namespace EntitySchema

inductive PasswordFault where
  | length (low high : Nat)
  | uppercase
  | lowercase
  | number
  | special
deriving DecidableEq

def PasswordFault.message : PasswordFault → String
  | .length low high =>
    "length must be between " ++ toString low ++ " and " ++ toString high ++ " characters"
  | .uppercase => "must contain at least one uppercase letter"
  | .lowercase => "must contain at least one lowercase letter"
  | .number => "must contain at least one number"
  | .special => "must contain at least one special character"

inductive Violation where
  | wrongType (expected : String) (actual : Json)
  | outOfRange (expected low high actual : String)
  | format (expected : String) (actual : Json)
  | password (fault : PasswordFault)
  | custom (reason : String)

namespace Violation

def describe : Json → String
  | .string s => "string: " ++ s
  | .array items => "array of length " ++ toString items.length
  | .object _ => "object"
  | value => value.kind ++ ": " ++ value.text

def message : Violation → String
  | .wrongType expected actual | .format expected actual =>
    "expected " ++ expected ++ ", but received " ++ describe actual
  | .outOfRange expected low high actual =>
    "expected " ++ expected ++ " in range [" ++ low ++ ", " ++ high ++ "], but received " ++ actual
  | .password fault => "password " ++ fault.message
  | .custom reason => reason

def kind : Violation → String
  | .wrongType _ _ => "WrongType"
  | .outOfRange _ _ _ _ => "OutOfRange"
  | .format _ _ => "Format"
  | .password _ => "Password"
  | .custom _ => "Custom"

end Violation

end EntitySchema

import EntitySchema.Field.Violation
import EntitySchema.Json.Shape
import EntitySchema.Text.Letter

set_option autoImplicit false

namespace EntitySchema

structure PasswordPolicy where
  minLength : Nat
  maxLength : Nat
  requireUppercase : Bool
  requireLowercase : Bool
  requireNumber : Bool
  requireSpecial : Bool
deriving DecidableEq

namespace PasswordPolicy

def standard : PasswordPolicy := ⟨9, 20, false, false, false, false⟩

def withLengths (policy : PasswordPolicy) (low high : Option Nat) : PasswordPolicy :=
  { policy with minLength := low.getD policy.minLength, maxLength := high.getD policy.maxLength }

def fault? (policy : PasswordPolicy) (password : String) : Option PasswordFault :=
  let chars := password.toList
  if chars.length < policy.minLength ∨ policy.maxLength < chars.length then
    some (.length policy.minLength policy.maxLength)
  else if policy.requireUppercase && !chars.any Letter.isUppercase then some .uppercase
  else if policy.requireLowercase && !chars.any Letter.isLowercase then some .lowercase
  else if policy.requireNumber && !chars.any Letter.isNumeric then some .number
  else if policy.requireSpecial && !chars.any (fun c => !Letter.isAlphanumeric c) then some .special
  else none

def toJson (policy : PasswordPolicy) : Json :=
  .object
    [("max_length", .ofNat policy.maxLength), ("min_length", .ofNat policy.minLength),
     ("require_lowercase", .bool policy.requireLowercase),
     ("require_number", .bool policy.requireNumber),
     ("require_special", .bool policy.requireSpecial),
     ("require_uppercase", .bool policy.requireUppercase)]

def read (origin : Json.Origin) : Json.Reader PasswordPolicy :=
  Json.Reader.record origin "PasswordPolicy"
    (["min_length", "max_length", "require_uppercase", "require_lowercase", "require_number",
      "require_special"].map Json.Reader.field)
    standard fun policy name tree => do
      match name with
      | "min_length" => return { policy with minLength := (← Json.Reader.count tree).toNat }
      | "max_length" => return { policy with maxLength := (← Json.Reader.count tree).toNat }
      | "require_uppercase" => return { policy with requireUppercase := ← Json.Reader.bool tree }
      | "require_lowercase" => return { policy with requireLowercase := ← Json.Reader.bool tree }
      | "require_number" => return { policy with requireNumber := ← Json.Reader.bool tree }
      | _ => return { policy with requireSpecial := ← Json.Reader.bool tree }

end PasswordPolicy

end EntitySchema

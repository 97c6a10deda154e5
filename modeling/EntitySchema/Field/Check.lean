import EntitySchema.Field.Bounds
import EntitySchema.Field.Format
import EntitySchema.Field.Password
import EntitySchema.Field.Violation
import EntitySchema.Pattern.Reader

set_option autoImplicit false

namespace EntitySchema

abbrev Check := Json → Bounds → Bool → Except Violation Unit

namespace Check

def numeric (expected : String) (value : Json) (strict : Bool) : Except Violation Binary64 :=
  match value with
  | .number n => .ok n.toBinary64
  | .string s =>
    match if strict then none else readNumber? (Blank.trim s) with
    | some x => .ok x
    | none => .error (.wrongType expected value)
  | _ => .error (.wrongType expected value)

def whole (expected : String) (value : Json) (strict : Bool) : Except Violation Binary64 := do
  let x ← numeric expected value strict
  if x.isWhole then return x else .error (.wrongType expected value)

def within (expected : String) (x : Binary64) (bounds : Bounds) : Except Violation Unit :=
  if bounds.contains x then .ok ()
  else .error (.outOfRange expected bounds.minLabel bounds.maxLabel ("number: " ++ x.plainText))

def formatted (expected : String) (value : Json) (holds : Bool) : Except Violation Unit :=
  if holds then .ok () else .error (.format expected value)

def number : Check := fun value bounds strict => do
  within "number" (← numeric "number" value strict) bounds

def integer : Check := fun value bounds strict => do
  within "integer" (← whole "integer" value strict) bounds

def float : Check := fun value bounds strict => do
  let x ← numeric "float" value strict
  if x.isWhole then .error (.wrongType "float" value) else within "float" x bounds

def isEven (x : Binary64) : Bool := x.scaled % (2 * Binary64.unit) = 0

def even : Check := fun value _ strict => do
  formatted "even integer" value (isEven (← whole "even integer" value strict))

def odd : Check := fun value _ strict => do
  formatted "odd integer" value (!isEven (← whole "odd integer" value strict))

def positive : Check := fun value _ strict => do
  formatted "positive number" value (0 < (← numeric "positive number" value strict).scaled)

def negative : Check := fun value _ strict => do
  formatted "negative number" value ((← numeric "negative number" value strict).scaled < 0)

def isPowerOfTwo (n : Int) : Bool := 1 ≤ n && n < 0x10000000000000000 && n.toNat = Nat.pow 2 n.toNat.log2

def powerOfTwo : Check := fun value _ strict => do
  formatted "power of two" value (isPowerOfTwo (← whole "power of two" value strict).truncate)

-- A character code; the flag admits codes up to 255 and leaves texts readable as numbers.
def ascii : Check := fun value _ extended => do
  let x ← whole "ascii code" value false
  let high := if extended then 255 else 127
  if 0 ≤ x.truncate ∧ x.truncate ≤ high then return ()
  else .error (.outOfRange "ascii code" "0" (toString high) ("number: " ++ x.plainText))

def text (expected : String) : Json → Except Violation String
  | .string s => .ok s
  | value => .error (.wrongType expected value)

def textFormat (expected : String) (holds : String → Bool) : Check := fun value _ _ => do
  formatted expected value (holds (← text expected value))

def withinLength (expected : String) (length : Nat) (bounds : Bounds) : Except Violation Unit :=
  if bounds.containsLength length then .ok ()
  else
    .error (.outOfRange expected bounds.minLabel bounds.maxLabel ("length: " ++ toString length))

def string : Check := fun value bounds _ => do
  withinLength "string length" (← text "string" value).length bounds

def email : Check := textFormat "email" Format.isEmail
def regex : Check := textFormat "regular expression" Pattern.isPattern
def jwt : Check := textFormat "jwt" Format.isToken
def slug : Check := textFormat "slug" Format.isSlug
def hexadecimal : Check := textFormat "hexadecimal" Format.isHexadecimal
def ipAddress : Check := textFormat "ip address" Format.isIpAddress
def function : Check := textFormat "function name" Format.isFunctionName

def json : Check := fun value _ strict =>
  match value with
  | .string s => formatted "json" value (Json.read? s).isSome
  | .object _ | .array _ => if strict then .error (.wrongType "json" value) else .ok ()
  | _ => .error (.wrongType "json" value)

def boolean : Check := fun value _ _ =>
  match value with
  | .bool _ => .ok ()
  | _ => .error (.wrongType "boolean" value)

def array : Check := fun value bounds _ =>
  match value with
  | .array items => withinLength "array length" items.length bounds
  | _ => .error (.wrongType "array" value)

def object : Check := fun value _ _ =>
  match value with
  | .object _ => .ok ()
  | _ => .error (.wrongType "object" value)

def hasNumbers (value : Json) (keys : List String) : Bool :=
  keys.all fun key => (value.get? key).any Json.isNumber

def isPoint (value : Json) : Bool := hasNumbers value ["lng", "lat"]

def isEnvelope (value : Json) : Bool :=
  match value.get? "bounds" with
  | some box => hasNumbers box ["minLng", "minLat", "maxLng", "maxLat"]
  | none => false

def geometry : Check := fun value _ _ =>
  match value with
  | .object _ => formatted "geometry" value (isPoint value || isEnvelope value)
  | _ => .error (.wrongType "geometry" value)

def withinInstants (expected : String) (t : Instant) (bounds : Bounds) : Except Violation Unit :=
  if bounds.containsInstant t then .ok ()
  else .error (.outOfRange expected bounds.minLabel bounds.maxLabel t.text)

def found (expected : String) (value : Json) : Option Instant → Except Violation Instant
  | some t => .ok t
  | none => .error (.format expected value)

def date : Check := fun value bounds strict => do
  let t ← match value with
    | .string s => found "date" value (Instant.parse? s)
    | .number n =>
      if strict then .error (.wrongType "date" value)
      else found "date" value (n.toInt64?.bind Instant.ofMillis?)
    | _ => .error (.wrongType "date" value)
  withinInstants "date" t bounds

def timestamp : Check := fun value bounds strict => do
  let x ← whole "timestamp" value strict
  let t ← found "timestamp" value (Instant.ofMillis? (x.clampInto (-0x8000000000000000) 0x7FFFFFFFFFFFFFFF))
  withinInstants "timestamp" t bounds

def password (policy : PasswordPolicy) : Check := fun value bounds _ => do
  let s ← text "password" value
  match (policy.withLengths bounds.minLength? bounds.maxLength?).fault? s with
  | some fault => .error (.password fault)
  | none => return ()

end Check

end EntitySchema

import EntitySchema.Json.Shape
import EntitySchema.Time.Reader

/-!
# Bounds

The least and the greatest value that a field may have, each a number or a date. Numbers and dates
stand for each other as milliseconds since the start of 1970, and numbers bound the lengths of
texts and lists as well.
-/

set_option autoImplicit false

namespace EntitySchema

inductive Limit where
  | number (x : Binary64)
  | date (t : Instant)
deriving DecidableEq

namespace Limit

def toNumber : Limit → Binary64
  | .number x => x
  | .date t => .ofInt t.millis

def toInstant? : Limit → Option Instant
  | .number x => Instant.ofMillis? (x.clampInto (-0x8000000000000000) 0x7FFFFFFFFFFFFFFF)
  | .date t => some t

def toLength (l : Limit) : Nat := (l.toNumber.clampInto 0 0xFFFFFFFFFFFFFFFF).toNat

def label : Limit → String
  | .number x => x.plainText
  | .date t => t.text

def toJson : Limit → Json
  | .number x => .number (.real x)
  | .date t => .string t.zuluText

def read : Json.Reader Limit := fun tree => do
  match ← Json.Reader.value tree with
  | .number n => return .number n.toBinary64
  | .string s =>
    match Instant.ofLoose? s with
    | some t => return .date t
    | none => .error (.noAlternative "Limit")
  | _ => .error (.noAlternative "Limit")

end Limit

structure Bounds where
  min : Option Limit
  max : Option Limit
deriving DecidableEq

namespace Bounds

def unbounded : Bounds := ⟨none, none⟩

def between (low high : Nat) : Bounds :=
  ⟨some (.number (.ofNat low)), some (.number (.ofNat high))⟩

def orDefaults (own defaults : Bounds) : Bounds :=
  ⟨own.min <|> defaults.min, own.max <|> defaults.max⟩

def isInverted (b : Bounds) : Bool :=
  match b.min, b.max with
  | some low, some high => high.toNumber.lt low.toNumber
  | _, _ => false

def contains (b : Bounds) (x : Binary64) : Bool :=
  (b.min.all fun low => low.toNumber.le x) && (b.max.all fun high => x.le high.toNumber)

-- Whether an instant lies within those sides that are dates of the supported range.
def containsInstant (b : Bounds) (t : Instant) : Bool :=
  ((b.min.bind Limit.toInstant?).all fun low => low.le t) &&
    ((b.max.bind Limit.toInstant?).all fun high => t.le high)

def minLength? (b : Bounds) : Option Nat := b.min.map Limit.toLength
def maxLength? (b : Bounds) : Option Nat := b.max.map Limit.toLength

def containsLength (b : Bounds) (length : Nat) : Bool :=
  (b.minLength?.getD 0 ≤ length) && (length ≤ b.maxLength?.getD 0xFFFFFFFFFFFFFFFF)

def minLabel (b : Bounds) : String := (b.min.map Limit.label).getD "-inf"
def maxLabel (b : Bounds) : String := (b.max.map Limit.label).getD "inf"

def members (b : Bounds) : List (String × Json) :=
  (b.max.toList.map fun l => ("max", l.toJson)) ++ (b.min.toList.map fun l => ("min", l.toJson))

def toJson (b : Bounds) : Json := .object b.members

def read (origin : Json.Origin) : Json.Reader Bounds :=
  Json.Reader.record origin "Bounds" [Json.Reader.field "min", Json.Reader.field "max"] unbounded
    fun b name tree => do
      let limit ← Json.Reader.optional Limit.read tree
      return if name = "min" then { b with min := limit } else { b with max := limit }

end Bounds

end EntitySchema

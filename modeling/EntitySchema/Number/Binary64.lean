/-!
# Finite double-precision numbers

A finite double is a sign, a whole mantissa and a binary exponent in canonical form. All arithmetic
is exact: `scaled` reads a double as a whole number of units of `2⁻¹⁰⁷⁴`, which every finite double
is, so order, truncation and divisibility are statements about integers. Rounding enters only in
`ofRatio?`, which takes the nearest double and the even one of two.
-/

set_option autoImplicit false

namespace EntitySchema

def Binary64.Canonical (mantissa : Nat) (exponent : Int) : Prop :=
  mantissa < 0x20000000000000 ∧ -1074 ≤ exponent ∧ exponent ≤ 971 ∧
    (0x10000000000000 ≤ mantissa ∨ exponent = -1074)

instance (mantissa : Nat) (exponent : Int) : Decidable (Binary64.Canonical mantissa exponent) :=
  inferInstanceAs (Decidable (_ ∧ _))

structure Binary64 where
  negative : Bool
  mantissa : Nat
  exponent : Int
  canonical : Binary64.Canonical mantissa exponent
deriving DecidableEq

namespace Binary64

def zero (negative : Bool) : Binary64 := ⟨negative, 0, -1074, by decide⟩

instance : Inhabited Binary64 := ⟨zero false⟩

def largest (negative : Bool) : Binary64 := ⟨negative, 0x1FFFFFFFFFFFFF, 971, by decide⟩

-- The double as a whole number of units of `2⁻¹⁰⁷⁴`.
def scaled (x : Binary64) : Int :=
  let magnitude : Int := (x.mantissa * Nat.pow 2 (x.exponent + 1074).toNat : Nat)
  if x.negative then -magnitude else magnitude

def unit : Int := Int.ofNat (Nat.pow 2 1074)

def lt (x y : Binary64) : Bool := x.scaled < y.scaled
def le (x y : Binary64) : Bool := x.scaled ≤ y.scaled
def isZero (x : Binary64) : Bool := x.mantissa = 0

def roundQuotient (num den : Nat) : Nat :=
  let quotient := num / den
  let twice := 2 * (num % den)
  if twice < den then quotient
  else if twice > den then quotient + 1
  else quotient + quotient % 2

def binaryOrder (num den : Nat) : Int :=
  let guess : Int := (num.log2 : Int) - (den.log2 : Int)
  let reached :=
    if 0 ≤ guess then den * Nat.pow 2 guess.toNat ≤ num else den ≤ num * Nat.pow 2 (-guess).toNat
  if reached then guess else guess - 1

def carry? (negative : Bool) (mantissa : Nat) (exponent : Int) : Option Binary64 :=
  if h : Canonical mantissa exponent then some ⟨negative, mantissa, exponent, h⟩
  else if h : Canonical (mantissa / 2) (exponent + 1) then some ⟨negative, mantissa / 2, exponent + 1, h⟩
  else none

def ofRatio? (negative : Bool) (num den : Nat) : Option Binary64 :=
  if num = 0 ∨ den = 0 then some (zero negative)
  else
    let exponent := max (-1074) (binaryOrder num den - 52)
    let mantissa :=
      if 0 ≤ exponent then roundQuotient num (den * Nat.pow 2 exponent.toNat)
      else roundQuotient (num * Nat.pow 2 (-exponent).toNat) den
    carry? negative mantissa exponent

-- The nearest double to an integer. Integers beyond the largest double are read as it; no 64-bit
-- integer is.
def ofInt (n : Int) : Binary64 :=
  (ofRatio? (n < 0) n.natAbs 1).getD (largest (n < 0))

def ofNat (n : Nat) : Binary64 := ofInt n

def truncate (x : Binary64) : Int := x.scaled.tdiv unit

def isWhole (x : Binary64) : Bool := x.scaled % unit = 0

def roundAway (x : Binary64) : Int :=
  let magnitude : Nat := (2 * x.scaled.natAbs + Nat.pow 2 1074) / Nat.pow 2 1075
  if x.negative then -(magnitude : Int) else (magnitude : Int)

def clampInto (low high : Int) (x : Binary64) : Int := max low (min high x.truncate)

def mul? (x y : Binary64) : Option Binary64 :=
  let mantissa := x.mantissa * y.mantissa
  let exponent := x.exponent + y.exponent
  ofRatio? (x.negative != y.negative) (mantissa * Nat.pow 2 exponent.toNat)
    (Nat.pow 2 (-exponent).toNat)

def div? (x y : Binary64) : Option Binary64 :=
  let exponent := x.exponent - y.exponent
  ofRatio? (x.negative != y.negative) (x.mantissa * Nat.pow 2 exponent.toNat)
    (y.mantissa * Nat.pow 2 (-exponent).toNat)

def neg (x : Binary64) : Binary64 := { x with negative := !x.negative }

end Binary64

end EntitySchema

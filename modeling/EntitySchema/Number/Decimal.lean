import EntitySchema.Number.Binary64

/-!
# Decimal text of doubles

`shortest` gives the fewest decimal digits that read back as a double. Two layouts write them: JSON
text, with a point always and an exponent for the very large and very small, and plain text, which
is positional throughout. Two ways of reading follow: `ofDecimal?` rounds once, and `ofScaled?`
scales a leading run of digits by a power of ten, rounding the digits and the product apart.
-/

set_option autoImplicit false

namespace EntitySchema

def decimalDigits (n : Nat) : List Char := Nat.toDigits 10 n

def digitsValue (digits : List Char) : Nat :=
  digits.foldl (fun value c => value * 10 + (c.toNat - '0'.toNat)) 0

namespace Decimal

inductive Tie where
  | toEven
  | up
deriving DecidableEq

structure Digits where
  digits : Nat
  exponent : Int
deriving DecidableEq

-- The power of ten with `10 ^ (k - 1) ≤ num / den < 10 ^ k`, for positive `num` and `den`, searched
-- upward from a lower bound that binary orders give.
def decimalOrder (num den : Nat) : Int :=
  let bits := Binary64.binaryOrder num den
  let low := bits * 30103 / 100000 - 1
  let reaches (k : Int) : Bool :=
    if 0 ≤ k then num < den * Nat.pow 10 k.toNat else num * Nat.pow 10 (-k).toNat < den
  ((List.range 5).map fun (i : Nat) => low + i).find? reaches |>.getD low

-- One of the two neighbours of `num / den` on the grid of `10 ^ place` that lies between the ends
-- `low` and `high`, the nearer if both do. Ends are given over the same denominator and count if
-- `inclusive`.
def onGrid (tie : Tie) (num den low high : Nat) (inclusive : Bool) (place : Int) : Option Digits :=
  let up := Nat.pow 10 (-place).toNat
  let step := den * Nat.pow 10 place.toNat
  let below := num * up / step
  let inside (k : Nat) : Bool :=
    if inclusive then low * up ≤ k * step && k * step ≤ high * up
    else low * up < k * step && k * step < high * up
  let remainder := num * up % step
  let belowNearer : Bool :=
    if 2 * remainder < step then true
    else if 2 * remainder > step then false
    else match tie with
      | .toEven => below % 2 = 0
      | .up => false
  let first := if belowNearer then below else below + 1
  let second := if belowNearer then below + 1 else below
  if 0 < first && inside first then some ⟨first, place⟩
  else if 0 < second && inside second then some ⟨second, place⟩
  else none

def trim (fuel : Nat) (d : Digits) : Digits :=
  match fuel with
  | 0 => d
  | fuel + 1 => if d.digits % 10 = 0 then trim fuel ⟨d.digits / 10, d.exponent + 1⟩ else d

def shortest (tie : Tie) (x : Binary64) : Digits :=
  let up := Nat.pow 2 x.exponent.toNat
  let den := Nat.pow 2 (-x.exponent).toNat * 4
  let num := x.mantissa * 4 * up
  let narrow := x.mantissa = 0x10000000000000 ∧ -1074 < x.exponent
  let low := num - (if narrow then 1 else 2) * up
  let high := num + 2 * up
  let inclusive : Bool := x.mantissa % 2 = 0
  let order := decimalOrder num den
  let grids := (List.range 17).map fun (i : Nat) => order - 1 - i
  trim 20 ((grids.findSome? (onGrid tie num den low high inclusive)).getD ⟨x.mantissa, 0⟩)

def positional (d : Digits) : List Char :=
  let digits := decimalDigits d.digits
  if 0 ≤ d.exponent then digits ++ List.replicate d.exponent.toNat '0'
  else
    let places := (-d.exponent).toNat
    let padded := List.replicate (places + 1 - digits.length) '0' ++ digits
    padded.take (padded.length - places) ++ '.' :: padded.drop (padded.length - places)

def scientific (d : Digits) : List Char :=
  let digits := decimalDigits d.digits
  let exponent := d.exponent + (digits.length - 1 : Nat)
  let fraction := if digits.length = 1 then [] else '.' :: digits.drop 1
  let sign := if exponent < 0 then '-' else '+'
  digits.take 1 ++ fraction ++ 'e' :: sign :: decimalDigits exponent.natAbs

end Decimal

namespace Binary64

def plainText (x : Binary64) : String :=
  let body := if x.isZero then ['0'] else Decimal.positional (Decimal.shortest .up x)
  String.ofList (if x.negative then '-' :: body else body)

-- JSON text: positional with a fraction when the leading digit stands between `10⁻⁵` and `10¹⁵`,
-- with an exponent otherwise.
def jsonText (x : Binary64) : String :=
  let body :=
    if x.isZero then ['0', '.', '0']
    else
      let d := Decimal.shortest .toEven x
      let order := d.exponent + ((decimalDigits d.digits).length - 1 : Nat)
      if -5 ≤ order ∧ order ≤ 15 then
        if 0 ≤ d.exponent then Decimal.positional d ++ ['.', '0'] else Decimal.positional d
      else Decimal.scientific d
  String.ofList (if x.negative then '-' :: body else body)

-- The double nearest to `± digits · 10 ^ exponent`; none when that is beyond the largest. Digit
-- runs whose leading place is far outside the range are settled without computing the power.
def ofDecimal? (negative : Bool) (digits : Nat) (exponent : Int) : Option Binary64 :=
  let order := exponent + ((decimalDigits digits).length : Int)
  if digits = 0 ∨ order < -400 then some (zero negative)
  else if 400 < order then none
  else ofRatio? negative (digits * Nat.pow 10 exponent.toNat) (Nat.pow 10 (-exponent).toNat)

def tenPower (k : Nat) : Binary64 := (ofRatio? false (Nat.pow 10 k) 1).getD (largest false)

-- The value of `± digits · 10 ^ exponent` computed in doubles: the digits are rounded, then
-- multiplied or divided by a rounded power of ten, in steps of `10³⁰⁸` when dividing by more. None
-- when a product is beyond the largest double.
def ofScaled? (negative : Bool) (digits : Nat) (exponent : Int) : Option Binary64 :=
  let start := { ofNat digits with negative := negative }
  if start.isZero then some start
  else if 0 ≤ exponent then
    if exponent ≤ 308 then start.mul? (tenPower exponent.toNat) else none
  else
    let places := (-exponent).toNat
    if places ≤ 308 then start.div? (tenPower places)
    else if places ≤ 616 then
      (start.div? (tenPower 308)).bind fun x => x.div? (tenPower (places - 308))
    else some (zero negative)

end Binary64

def splitSign : List Char → Bool × List Char
  | '-' :: rest => (true, rest)
  | '+' :: rest => (false, rest)
  | text => (false, text)

def readDigits? (text : List Char) : Option Nat :=
  if text ≠ [] ∧ text.all Char.isDigit then some (digitsValue text) else none

def readCount? (text : String) : Option UInt64 :=
  let body := match text.toList with
    | '+' :: rest => rest
    | other => other
  ((readDigits? body).filter (· < 0x10000000000000000)).map UInt64.ofNat

def readInt64? (text : String) : Option Int :=
  let (negative, body) := splitSign text.toList
  (readDigits? body).bind fun n =>
    let value : Int := if negative then -n else n
    if -0x8000000000000000 ≤ value ∧ value < 0x8000000000000000 then some value else none

def readExponent? : List Char → Option Int
  | [] => some 0
  | mark :: rest =>
    if mark = 'e' ∨ mark = 'E' then
      let (negative, body) := splitSign rest
      (readDigits? body).map fun n => if negative then -n else n
    else none

def readNumber? (text : String) : Option Binary64 :=
  let (negative, body) := splitSign text.toList
  let whole := body.takeWhile Char.isDigit
  let afterWhole := body.dropWhile Char.isDigit
  let (fraction, rest) := match afterWhole with
    | '.' :: tail => (tail.takeWhile Char.isDigit, tail.dropWhile Char.isDigit)
    | other => ([], other)
  if whole = [] ∧ fraction = [] then none
  else (readExponent? rest).bind fun exponent =>
    Binary64.ofDecimal? negative (digitsValue (whole ++ fraction)) (exponent - fraction.length)

end EntitySchema

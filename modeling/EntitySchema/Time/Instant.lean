import EntitySchema.Number.Decimal
import EntitySchema.Time.Calendar

/-!
# Instants

A point of time in UTC, by the second and the nanoseconds in it. A leap second is the end of the
second before it: its nanoseconds count on from a thousand million. It therefore lies after that
second and before the next one.
-/

set_option autoImplicit false

namespace EntitySchema

structure Instant where
  second : Int
  nano : Nat
deriving DecidableEq

namespace Instant

def billion : Nat := 1000000000

def minYear : Int := -262143
def maxYear : Int := 262142

def minSecond : Int := Calendar.dayNumber minYear 1 1 * 86400
def maxSecond : Int := (Calendar.dayNumber maxYear 12 31 + 1) * 86400 - 1

def inRange (t : Instant) : Bool := minSecond ≤ t.second && t.second ≤ maxSecond

def le (s t : Instant) : Bool :=
  s.second < t.second || (s.second = t.second && s.nano ≤ t.nano)

def millis (t : Instant) : Int := t.second * 1000 + (t.nano / 1000000 : Nat)

def ofMillis? (ms : Int) : Option Instant :=
  let t : Instant := ⟨ms.fdiv 1000, ((ms.fmod 1000).toNat) * 1000000⟩
  if t.inRange then some t else none

def ofDay? (year : Int) (month day : Nat) : Option Instant :=
  if Calendar.isDay year month day ∧ minYear ≤ year ∧ year ≤ maxYear then
    some ⟨Calendar.dayNumber year month day * 86400, 0⟩
  else none

def padded (width n : Nat) : List Char :=
  let digits := decimalDigits n
  List.replicate (width - digits.length) '0' ++ digits

def yearText (year : Int) : List Char :=
  if 0 ≤ year ∧ year ≤ 9999 then padded 4 year.toNat
  else (if year < 0 then '-' else '+') :: padded 4 year.natAbs

def fractionText (nano : Nat) : List Char :=
  if nano = 0 then []
  else if nano % 1000000 = 0 then '.' :: padded 3 (nano / 1000000)
  else if nano % 1000 = 0 then '.' :: padded 6 (nano / 1000)
  else '.' :: padded 9 nano

def clockText (t : Instant) : List Char :=
  let (year, month, day) := Calendar.ofDayNumber (t.second.fdiv 86400)
  let inDay := (t.second.fmod 86400).toNat
  let leap := t.nano / billion
  yearText year ++ '-' :: padded 2 month ++ '-' :: padded 2 day ++ 'T' :: padded 2 (inDay / 3600) ++
    ':' :: padded 2 (inDay / 60 % 60) ++ ':' :: padded 2 (inDay % 60 + leap) ++
    fractionText (t.nano % billion)

def text (t : Instant) : String := String.ofList (t.clockText ++ "+00:00".toList)

def zuluText (t : Instant) : String := String.ofList (t.clockText ++ ['Z'])

end Instant

end EntitySchema

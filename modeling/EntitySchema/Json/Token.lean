import EntitySchema.Json.Value

/-!
# Lexing JSON

Text becomes tokens up to the first character that starts none. A number beyond the largest double
and a string with half a surrogate pair are tokens without a value: they may be skipped, not read.
-/

set_option autoImplicit false

namespace EntitySchema.Json

inductive Token where
  | openArray
  | closeArray
  | openObject
  | closeObject
  | comma
  | colon
  | null
  | bool (b : Bool)
  | number (n : Option JsonNumber)
  | string (s : Option String)
  | fault

inductive Unit16 where
  | char (c : Char)
  | unit (n : Nat)

def hexValue? (c : Char) : Option Nat :=
  if c.isDigit then some (c.toNat - '0'.toNat)
  else if 'a' ≤ c ∧ c ≤ 'f' then some (c.toNat - 'a'.toNat + 10)
  else if 'A' ≤ c ∧ c ≤ 'F' then some (c.toNat - 'A'.toNat + 10)
  else none

def hexValues? (digits : List Char) : Option Nat :=
  digits.foldlM (fun n c => (hexValue? c).map (n * 16 + ·)) 0

def unit16 (n : Nat) : Unit16 :=
  if 0xD800 ≤ n ∧ n < 0xE000 then .unit n else .char (Char.ofNat n)

def shortEscape? : Char → Option Char
  | '"' => some '"'
  | '\\' => some '\\'
  | '/' => some '/'
  | 'b' => some (Char.ofNat 8)
  | 'f' => some (Char.ofNat 12)
  | 'n' => some '\n'
  | 'r' => some '\r'
  | 't' => some '\t'
  | _ => none

def stringBody : List Char → Option (List Unit16 × List Char)
  | [] => none
  | '"' :: rest => some ([], rest)
  | '\\' :: 'u' :: a :: b :: c :: d :: rest =>
    (hexValues? [a, b, c, d]).bind fun n =>
      (stringBody rest).map fun (units, after) => (unit16 n :: units, after)
  | '\\' :: c :: rest =>
    (shortEscape? c).bind fun e =>
      (stringBody rest).map fun (units, after) => (.char e :: units, after)
  | c :: rest =>
    if c.toNat < 0x20 ∨ c = '\\' then none
    else (stringBody rest).map fun (units, after) => (.char c :: units, after)

def joinUnits : List Unit16 → Option (List Char)
  | [] => some []
  | .char c :: rest => (joinUnits rest).map (c :: ·)
  | .unit high :: .unit low :: rest =>
    if high < 0xDC00 ∧ 0xDC00 ≤ low then
      (joinUnits rest).map (Char.ofNat (0x10000 + (high - 0xD800) * 0x400 + (low - 0xDC00)) :: ·)
    else none
  | .unit _ :: _ => none

def gatherDigits (start : Nat) (digits : List Char) : Nat × Nat :=
  digits.foldl (fun (value, dropped) c =>
    let next := value * 10 + (c.toNat - '0'.toNat)
    if dropped = 0 ∧ next < 0x10000000000000000 then (next, 0) else (value, dropped + 1)) (start, 0)

-- The number written by its parts. Digits that do not fit one word count as zeros before the point
-- and as nothing behind it; a whole number that fits is kept whole, minus zero apart.
def numberOf (negative : Bool) (whole : List Char) (fraction : Option (List Char))
    (exponent : Option Int) : Option JsonNumber :=
  let (digits, dropped) := gatherDigits 0 whole
  let real (digits : Nat) (exponent : Int) :=
    (Binary64.ofScaled? negative digits exponent).map JsonNumber.real
  match fraction, exponent with
  | none, none =>
    let value : Int := if negative then -digits else digits
    if dropped = 0 ∧ ¬ (negative ∧ digits = 0) then
      match JsonNumber.ofInt? value with
      | some n => some n
      | none => real digits 0
    else real digits dropped
  | _, _ =>
    let places := fraction.getD []
    let (digits, lost) := gatherDigits digits places
    real digits ((dropped : Int) - (places.length - lost : Nat) + exponent.getD 0)

def digitRun (text : List Char) : Option (List Char × List Char) :=
  match text.takeWhile Char.isDigit with
  | [] => none
  | digits => some (digits, text.dropWhile Char.isDigit)

def fractionPart : List Char → Option (Option (List Char) × List Char)
  | '.' :: tail => (digitRun tail).map fun (digits, rest) => (some digits, rest)
  | other => some (none, other)

def exponentPart : List Char → Option (Option Int × List Char)
  | [] => some (none, [])
  | mark :: tail =>
    if mark = 'e' ∨ mark = 'E' then
      let (minus, tail) := splitSign tail
      (digitRun tail).map fun (digits, rest) =>
        let value : Int := digitsValue digits
        (some (if minus then -value else value), rest)
    else some (none, mark :: tail)

def numberBody (negative : Bool) (text : List Char) : Option (Option JsonNumber × List Char) := do
  let (whole, rest) ← digitRun text
  if whole.length > 1 ∧ whole.head? = some '0' then none
  let (fraction, rest) ← fractionPart rest
  let (exponent, rest) ← exponentPart rest
  return (numberOf negative whole fraction exponent, rest)

def dropWord : List Char → List Char → Option (List Char)
  | [], text => some text
  | w :: word, c :: text => if w = c then dropWord word text else none
  | _ :: _, [] => none

def isSpace (c : Char) : Bool := c = ' ' || c = '\t' || c = '\n' || c = '\r'

def firstToken (text : List Char) : Token × List Char :=
  let word (token : Token) (rest : String) (tail : List Char) : Token × List Char :=
    match dropWord rest.toList tail with
    | some after => (token, after)
    | none => (.fault, [])
  match text with
  | [] => (.fault, [])
  | '[' :: rest => (.openArray, rest)
  | ']' :: rest => (.closeArray, rest)
  | '\x7b' :: rest => (.openObject, rest)
  | '\x7d' :: rest => (.closeObject, rest)
  | ',' :: rest => (.comma, rest)
  | ':' :: rest => (.colon, rest)
  | 'n' :: rest => word .null "ull" rest
  | 't' :: rest => word (.bool true) "rue" rest
  | 'f' :: rest => word (.bool false) "alse" rest
  | '"' :: rest =>
    match stringBody rest with
    | some (units, after) => (.string ((joinUnits units).map String.ofList), after)
    | none => (.fault, [])
  | '-' :: rest =>
    match numberBody true rest with
    | some (n, after) => (.number n, after)
    | none => (.fault, [])
  | other =>
    match numberBody false other with
    | some (n, after) => (.number n, after)
    | none => (.fault, [])

def tokens (text : List Char) : List Token :=
  match text.dropWhile isSpace with
  | [] => []
  | c :: rest =>
    let (token, after) := firstToken (c :: rest)
    if _shorter : after.length < text.length then token :: tokens after else [.fault]
termination_by text.length

end EntitySchema.Json

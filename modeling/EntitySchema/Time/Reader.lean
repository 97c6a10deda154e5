import EntitySchema.Text.Blank
import EntitySchema.Time.Instant

/-!
# Reading instants

Three forms are read: RFC 3339 with fixed widths, plain dates, and a lenient form of RFC 3339 that
allows blanks, signs and short numbers. Each step takes a part off the front of the text and
returns what follows.
-/

set_option autoImplicit false

namespace EntitySchema.Instant

abbrev Step (α : Type) := List Char → Option (α × List Char)

def number (low high : Nat) : Step Nat := fun text =>
  let digits := (text.take high).takeWhile Char.isDigit
  if low ≤ digits.length then some (digitsValue digits, text.drop digits.length) else none

def mark (c : Char) : Step Unit
  | d :: rest => if d = c then some ((), rest) else none
  | [] => none

def bounded (low high : Nat) (step : Step Nat) : Step Nat := fun text =>
  (step text).filter fun (n, _) => low ≤ n && n ≤ high

def fraction : Step Nat
  | '.' :: rest =>
    let digits := rest.takeWhile Char.isDigit
    if digits.isEmpty then none
    else
      let kept := digits.take 9
      some (digitsValue kept * Nat.pow 10 (9 - kept.length), rest.drop digits.length)
  | text => some (0, text)

def offsetSign : Step Bool
  | '+' :: rest => some (false, rest)
  | c :: rest => if c = '-' ∨ c.toNat = 0x2212 then some (true, rest) else none
  | [] => none

def offset (separator : Step Unit) : Step Int := fun text =>
  match text with
  | 'Z' :: rest | 'z' :: rest => some (0, rest)
  | _ => do
    let (negative, text) ← offsetSign text
    let (hours, text) ← number 2 2 text
    let (_, text) ← separator text
    let (minutes, text) ← bounded 0 59 (number 2 2) text
    let seconds : Int := hours * 3600 + minutes * 60
    return (if negative then -seconds else seconds, text)

-- A day, a time of day and an offset put together. The sixtieth second of a minute is the leap
-- second at its end.
def compose? (year : Int) (month day hour minute second nano : Nat) (offset : Int) :
    Option Instant := do
  let midnight ← ofDay? year month day
  let leap := second = 60
  let inDay : Nat := hour * 3600 + minute * 60 + (if leap then 59 else second)
  let t : Instant :=
    ⟨midnight.second + inDay - offset, if leap then nano + billion else nano⟩
  if -86400 < offset ∧ offset < 86400 ∧ t.inRange then some t else none

def ofRfc3339? (s : String) : Option Instant := do
  let (year, text) ← number 4 4 s.toList
  let (_, text) ← mark '-' text
  let (month, text) ← bounded 1 12 (number 2 2) text
  let (_, text) ← mark '-' text
  let (day, text) ← bounded 1 31 (number 2 2) text
  let text ← match text with
    | 'T' :: rest | 't' :: rest | ' ' :: rest => some rest
    | _ => none
  let (hour, text) ← bounded 0 23 (number 2 2) text
  let (_, text) ← mark ':' text
  let (minute, text) ← bounded 0 59 (number 2 2) text
  let (_, text) ← mark ':' text
  let (second, text) ← bounded 0 60 (number 2 2) text
  let (nano, text) ← fraction text
  let (offset, text) ← offset (mark ':') text
  if text.isEmpty then compose? year month day hour minute second nano offset else none

def spaced {α : Type} (step : Step α) : Step α := fun text => step (Blank.trimStart text)

def signedYear : Step Int
  | '-' :: rest => (number 1 rest.length rest).map fun (n, rest) => (-n, rest)
  | '+' :: rest => (number 1 rest.length rest).map fun (n, rest) => (n, rest)
  | text => (number 1 4 text).map fun (n, rest) => (n, rest)

def ofPlainDate? (s : String) : Option Instant := do
  let (year, text) ← spaced signedYear s.toList
  let (_, text) ← mark '-' text
  let (month, text) ← spaced (number 1 2) text
  let (_, text) ← mark '-' text
  let (day, text) ← spaced (number 1 2) text
  if text.isEmpty then ofDay? year month day else none

def parse? (s : String) : Option Instant := (ofRfc3339? s).orElse fun _ => ofPlainDate? s

def looseSeparator : Step Unit := fun text =>
  some ((), text.dropWhile fun c => c = ':' || Blank.isBlank c)

def looseOffset : Step Int := fun text =>
  match text with
  | a :: b :: c :: rest =>
    if a.toUpper = 'U' ∧ b.toUpper = 'T' ∧ c.toUpper = 'C' then some (0, rest)
    else offset looseSeparator text
  | _ => offset looseSeparator text

def ofLoose? (s : String) : Option Instant := do
  let (year, text) ← spaced signedYear s.toList
  let (_, text) ← spaced (mark '-') text
  let (month, text) ← spaced (bounded 1 12 (number 1 2)) text
  let (_, text) ← spaced (mark '-') text
  let (day, text) ← spaced (bounded 1 31 (number 1 2)) text
  let text ← match text with
    | 'T' :: rest | 't' :: rest | ' ' :: rest => some rest
    | _ => none
  let (hour, text) ← spaced (bounded 0 23 (number 1 2)) text
  let (_, text) ← spaced (mark ':') text
  let (minute, text) ← spaced (bounded 0 59 (number 1 2)) text
  let (_, text) ← spaced (mark ':') text
  let (second, text) ← spaced (bounded 0 60 (number 1 2)) text
  let (nano, text) ← fraction text
  let (offset, text) ← spaced looseOffset text
  if (Blank.trimStart text).isEmpty then compose? year month day hour minute second nano offset
  else none

end EntitySchema.Instant

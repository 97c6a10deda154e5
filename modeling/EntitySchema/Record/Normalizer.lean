import EntitySchema.Json.Value
import EntitySchema.Text.Blank
import EntitySchema.Text.LetterCase

set_option autoImplicit false

namespace EntitySchema

inductive Normalizer where
  | lowercase
  | uppercase
  | capitalize
  | trim
  | slugify
  | round
deriving DecidableEq

namespace Normalizer

def all : List Normalizer := [.lowercase, .uppercase, .capitalize, .trim, .slugify, .round]

def name : Normalizer → String
  | .lowercase => "lowercase"
  | .uppercase => "uppercase"
  | .capitalize => "capitalize"
  | .trim => "trim"
  | .slugify => "slugify"
  | .round => "round"

def parse? (s : String) : Option Normalizer := all.find? fun n => n.name == s

def capitalizeText (s : String) : String :=
  match s.toList with
  | [] => ""
  | c :: rest => String.ofList (LetterCase.upperChar c ++ rest.flatMap LetterCase.lowerChar)

-- Letters and digits in lower case, with one hyphen for each gap between them. `inside` says
-- whether anything has been written, `gap` whether something has been left out since.
def slugChars (inside gap : Bool) : List Char → List Char
  | [] => []
  | c :: rest =>
    if c.isAlphanum then
      (if inside && gap then ['-'] else []) ++ c.toLower :: slugChars true false rest
    else slugChars inside true rest

def slugifyText (s : String) : String := String.ofList (slugChars false false s.toList)

-- A double rounded to a whole number, a half away from zero. Beyond the range of a signed word
-- every double is whole and stays as it is.
def roundNumber : JsonNumber → JsonNumber
  | .whole n fits => .whole n fits
  | .real x =>
    let n := x.roundAway
    if h : -0x8000000000000000 < n ∧ n < 0x8000000000000000 then .whole n (JsonNumber.fits_of_signed n h)
    else .real x

def onText (f : String → String) : Json → Json
  | .string s => .string (f s)
  | value => value

def apply : Normalizer → Json → Json
  | .lowercase => onText LetterCase.lower
  | .uppercase => onText LetterCase.upper
  | .capitalize => onText capitalizeText
  | .trim => onText Blank.trim
  | .slugify => onText slugifyText
  | .round => fun value =>
    match value with
    | .number n => .number (roundNumber n)
    | other => other

end Normalizer

end EntitySchema

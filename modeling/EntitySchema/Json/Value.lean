import EntitySchema.Number.Decimal

/-!
# JSON values

A value is a tree of objects, arrays and leaves. Whole numbers of 64 bits stand apart from doubles:
`2` and `2.0` are different values. The members of an object are kept in the order of their keys,
which `Members.insert` maintains.
-/

set_option autoImplicit false

namespace EntitySchema

inductive JsonNumber where
  | whole (n : Int) (fits : -0x8000000000000000 ≤ n ∧ n < 0x10000000000000000)
  | real (x : Binary64)
deriving DecidableEq

namespace JsonNumber

theorem fits_of_signed (n : Int) (signed : -0x8000000000000000 < n ∧ n < 0x8000000000000000) :
    -0x8000000000000000 ≤ n ∧ n < 0x10000000000000000 := by
  omega

def ofInt? (n : Int) : Option JsonNumber :=
  if h : -0x8000000000000000 ≤ n ∧ n < 0x10000000000000000 then some (.whole n h) else none

def toBinary64 : JsonNumber → Binary64
  | .whole n _ => .ofInt n
  | .real x => x

def toInt64? : JsonNumber → Option Int
  | .whole n _ => if n < 0x8000000000000000 then some n else none
  | .real _ => none

def text : JsonNumber → String
  | .whole n _ => toString n
  | .real x => x.jsonText

end JsonNumber

inductive Json where
  | null
  | bool (b : Bool)
  | number (n : JsonNumber)
  | string (s : String)
  | array (items : List Json)
  | object (members : List (String × Json))

instance : Inhabited Json := ⟨.null⟩

namespace Members

variable {α : Type}

def insert (key : String) (value : α) : List (String × α) → List (String × α)
  | [] => [(key, value)]
  | (k, v) :: rest =>
    if key = k then (key, value) :: rest
    else if key < k then (key, value) :: (k, v) :: rest
    else (k, v) :: insert key value rest

-- Entries in the order of their keys; of two with one key the later stays.
def ofList (entries : List (String × α)) : List (String × α) :=
  entries.foldl (fun members (key, value) => insert key value members) []

def keys (members : List (String × α)) : List String := members.map Prod.fst

def Sorted (members : List (String × α)) : Prop := members.Pairwise fun a b => a.1 < b.1

end Members

namespace Json

def ofNat (n : Nat) : Json :=
  match JsonNumber.ofInt? n with
  | some n => .number n
  | none => .number (.real (.ofNat n))

def ofCount (n : UInt64) : Json :=
  .number (.whole n.toNat ⟨by omega, Int.ofNat_lt.mpr n.toNat_lt⟩)

def isNull : Json → Bool
  | .null => true
  | _ => false

def isNumber : Json → Bool
  | .number _ => true
  | _ => false

def isObject : Json → Bool
  | .object _ => true
  | _ => false

def get? (key : String) : Json → Option Json
  | .object members => members.lookup key
  | _ => none

def kind : Json → String
  | .null => "null"
  | .bool _ => "boolean"
  | .number _ => "number"
  | .string _ => "string"
  | .array _ => "array"
  | .object _ => "object"

mutual
-- Equality of values as trees. Numbers compare by kind and by value, so zero equals its negative.
def same : Json → Json → Bool
  | .null, .null => true
  | .bool a, .bool b => a == b
  | .number (.whole a _), .number (.whole b _) => a == b
  | .number (.real a), .number (.real b) => a.scaled == b.scaled
  | .string a, .string b => a == b
  | .array a, .array b => sameItems a b
  | .object a, .object b => sameMembers a b
  | _, _ => false

def sameItems : List Json → List Json → Bool
  | [], [] => true
  | a :: as, b :: bs => same a b && sameItems as bs
  | _, _ => false

def sameMembers : List (String × Json) → List (String × Json) → Bool
  | [], [] => true
  | (k, a) :: as, (l, b) :: bs => k == l && same a b && sameMembers as bs
  | _, _ => false
end

end Json

end EntitySchema

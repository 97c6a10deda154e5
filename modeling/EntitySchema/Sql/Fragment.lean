/-!
# SQL fragments

SQL is built from pieces: text that is fixed by the library, names between double quotes, and
places that arguments are bound to. Text from outside is only ever bound. A fragment is rendered
once, when its statement is complete.
-/

set_option autoImplicit false

namespace EntitySchema.Sql

inductive Piece where
  | text (s : String)
  | name (identifier : String)
  | place (index : Nat)
deriving DecidableEq

-- The SQL of a piece. Names are written as they are; those of an entity contain no quotes.
def Piece.render : Piece → String
  | .text s => s
  | .name identifier => "\"" ++ identifier ++ "\""
  | .place index => "$" ++ toString index

abbrev Fragment := List Piece

namespace Fragment

def render (fragment : Fragment) : String := String.join (fragment.map Piece.render)

def join (separator : String) : List Fragment → Fragment
  | [] => []
  | [last] => last
  | first :: rest => first ++ .text separator :: join separator rest

def parenthesized (fragment : Fragment) : Fragment := .text "(" :: fragment ++ [.text ")"]

end Fragment

end EntitySchema.Sql

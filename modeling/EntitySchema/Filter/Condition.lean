import EntitySchema.Json.Value
import EntitySchema.Sql.Fragment

/-!
# Conditions

A condition is what a filter asks of a column, with every value it compares. `Condition.emit` turns
it into SQL: keys and values are bound one after the other, and only their places are written. How
the SQL reads depends on the shape of a condition alone.
-/

set_option autoImplicit false

namespace EntitySchema

structure Emitted where
  sql : Sql.Fragment
  values : List Json

inductive Comparison where
  | eq
  | ne
  | lt
  | lte
  | gt
  | gte
  | like
  | notLike
deriving DecidableEq

def Comparison.symbol : Comparison → String
  | .eq => "="
  | .ne => "<>"
  | .lt => "<"
  | .lte => "<="
  | .gt => ">"
  | .gte => ">="
  | .like => "LIKE"
  | .notLike => "NOT LIKE"

inductive Cast where
  | plain
  | lower
  | numeric
  | boolean
deriving DecidableEq

def Cast.apply : Cast → Sql.Fragment → Sql.Fragment
  | .plain, expr => expr
  | .lower, expr => .text "LOWER(" :: expr ++ [.text ")"]
  | .numeric, expr => .text "CAST(" :: expr ++ [.text " AS NUMERIC)"]
  | .boolean, expr => .text "CAST(" :: expr ++ [.text " AS BOOLEAN)"]

inductive Test where
  | isNull (negated : Bool)
  | compare (cast : Cast) (comparison : Comparison) (value : Json)
  | between (cast : Cast) (low high : Json)
  | anyOf (cast : Cast) (values : List Json)

def nullText (negated : Bool) : String := if negated then " IS NOT NULL" else " IS NULL"

def Test.emit (expr : Sql.Fragment) (bound : Nat) : Test → Emitted
  | .isNull negated => ⟨expr ++ [.text (nullText negated)], []⟩
  | .compare cast comparison value =>
    ⟨cast.apply expr ++ [.text (" " ++ comparison.symbol ++ " "), .place (bound + 1)], [value]⟩
  | .between cast low high =>
    ⟨Sql.Fragment.parenthesized
      (cast.apply expr ++ .text " >= " :: .place (bound + 1) :: .text " AND " :: cast.apply expr ++
        [.text " <= ", .place (bound + 2)]), [low, high]⟩
  | .anyOf cast values =>
    ⟨cast.apply expr ++ [.text " = ANY(", .place (bound + 1), .text ")"], [.array values]⟩

inductive Node where
  | leaf (test : Test)
  | object (members : List (String × Node))

def joined (connective : String) : List Sql.Fragment → Sql.Fragment
  | [only] => only
  | several =>
    Sql.Fragment.parenthesized (Sql.Fragment.join (" " ++ connective ++ " ") several)

mutual
-- What is asked of the value under one key. The key is bound first.
def Node.emit (base : Sql.Fragment) (bound : Nat) (key : String) : Node → Emitted
  | .leaf test =>
    let inner := test.emit (base ++ [.text "->>", .place (bound + 1)]) (bound + 1)
    ⟨inner.sql, .string key :: inner.values⟩
  | .object members =>
    let parts := Node.emitMembers (base ++ [.text "->", .place (bound + 1)]) (bound + 1) members
    ⟨joined "AND" (parts.map Emitted.sql), .string key :: parts.flatMap Emitted.values⟩

def Node.emitMembers (base : Sql.Fragment) (bound : Nat) : List (String × Node) → List Emitted
  | [] => []
  | (key, node) :: rest =>
    let first := node.emit base bound key
    first :: Node.emitMembers base (bound + first.values.length) rest
end

inductive Condition where
  | column (test : Test)
  | document (members : List (String × Node))
  | someElement (tuples : List (List (String × Node)))
  | holdsAny (values : List Json)
  | within (minLng minLat maxLng maxLat : Json)
  | near (lng lat radius : Json)

def srid : String := "4326"

namespace Condition

def emitTuples (bound : Nat) : List (List (String × Node)) → List Emitted
  | [] => []
  | tuple :: rest =>
    let parts := Node.emitMembers [.text "p"] bound tuple
    let values := parts.flatMap Emitted.values
    ⟨Sql.Fragment.parenthesized (Sql.Fragment.join " AND " (parts.map Emitted.sql)), values⟩ ::
      emitTuples (bound + values.length) rest

def emit (column : Sql.Fragment) (bound : Nat) : Condition → Emitted
  | .column test => test.emit column bound
  | .document members =>
    let parts := Node.emitMembers column bound members
    ⟨joined "AND" (parts.map Emitted.sql), parts.flatMap Emitted.values⟩
  | .someElement tuples =>
    let parts := emitTuples bound tuples
    ⟨.text "EXISTS (SELECT 1 FROM json_array_elements(" :: column ++
        .text "::json) AS p WHERE " :: Sql.Fragment.join " OR " (parts.map Emitted.sql) ++
        [.text ")"],
      parts.flatMap Emitted.values⟩
  | .holdsAny values =>
    ⟨joined "OR" (values.mapIdx fun i _ =>
        [.place (bound + i + 1), .text " = ANY("] ++ column ++ [.text ")"]), values⟩
  | .within minLng minLat maxLng maxLat =>
    ⟨[.text "ST_Contains(ST_MakeEnvelope(", .place (bound + 1), .text ", ", .place (bound + 2),
        .text ", ", .place (bound + 3), .text ", ", .place (bound + 4),
        .text (", " ++ srid ++ "), ")] ++ column ++ [.text ")"],
      [minLng, minLat, maxLng, maxLat]⟩
  | .near lng lat radius =>
    ⟨.text "ST_DWithin(" :: column ++
        [.text ", ST_SetSRID(ST_MakePoint(", .place (bound + 1), .text ", ", .place (bound + 2),
         .text ("), " ++ srid ++ ")::geography, "), .place (bound + 3), .text ")"],
      [lng, lat, radius]⟩

end Condition

end EntitySchema

import EntitySchema.Proofs.Filter.Acceptance

set_option autoImplicit false

namespace EntitySchema

open Sql Sql.Fragment

namespace Json

mutual
def leaves : Json → List Json
  | .object members => memberLeaves members
  | value => [value]

def memberLeaves : List (String × Json) → List Json
  | [] => []
  | (_, value) :: rest => value.leaves ++ memberLeaves rest
end

end Json

inductive Part where
  | frame (sql : Fragment)
  | leaf (expr : Fragment) (bound : Nat) (test : Test)

namespace Part

def sql : Part → Fragment
  | .frame sql => sql
  | .leaf expr bound test => (test.emit expr bound).sql

def test? : Part → Option Test
  | .frame _ => none
  | .leaf _ _ test => some test

def mapTest (f : Test → Test) : Part → Part
  | .frame sql => .frame sql
  | .leaf expr bound test => .leaf expr bound (f test)

theorem sql_frame (sql : Fragment) : (Part.frame sql).sql = sql := rfl

end Part

namespace Parts

def sql (parts : List Part) : Fragment := parts.flatMap Part.sql

def tests (parts : List Part) : List Test := parts.filterMap Part.test?

def mapTests (f : Test → Test) (parts : List Part) : List Part := parts.map (Part.mapTest f)

def join (separator : String) : List (List Part) → List Part
  | [] => []
  | [last] => last
  | first :: rest => first ++ .frame [.text separator] :: join separator rest

def parenthesized (parts : List Part) : List Part :=
  .frame [.text "("] :: parts ++ [.frame [.text ")"]]

def joined (connective : String) : List (List Part) → List Part
  | [only] => only
  | several => parenthesized (join (" " ++ connective ++ " ") several)

@[simp] theorem sql_nil : sql [] = [] := rfl

@[simp] theorem sql_cons (part : Part) (rest : List Part) :
    sql (part :: rest) = part.sql ++ sql rest := by
  simp [sql]

@[simp] theorem sql_append (first second : List Part) :
    sql (first ++ second) = sql first ++ sql second := by
  simp [sql]

theorem sql_join (separator : String) (rows : List (List Part)) :
    sql (join separator rows) = Fragment.join separator (rows.map sql) := by
  induction rows with
  | nil => rfl
  | cons first rest ih =>
      cases rest with
      | nil => rfl
      | cons second others =>
          simp only [join, sql_append, sql_cons, Part.sql_frame, ih]
          rfl

theorem sql_parenthesized (parts : List Part) :
    sql (parenthesized parts) = Fragment.parenthesized (sql parts) := by
  simp [parenthesized, Fragment.parenthesized, Part.sql_frame]

theorem sql_joined (connective : String) (rows : List (List Part)) :
    sql (joined connective rows) = EntitySchema.joined connective (rows.map sql) := by
  cases rows with
  | nil => exact sql_parenthesized []
  | cons first rest =>
      cases rest with
      | nil => rfl
      | cons second others =>
          exact (sql_parenthesized _).trans (congrArg Fragment.parenthesized (sql_join _ _))

theorem tests_append (first second : List Part) :
    tests (first ++ second) = tests first ++ tests second :=
  List.filterMap_append

theorem tests_join (separator : String) (rows : List (List Part)) :
    tests (join separator rows) = rows.flatMap tests := by
  induction rows with
  | nil => rfl
  | cons first rest ih =>
      cases rest with
      | nil => exact (List.append_nil _).symm
      | cons second others =>
          rw [List.flatMap_cons, ← ih]
          exact tests_append first _

theorem tests_parenthesized (parts : List Part) : tests (parenthesized parts) = tests parts :=
  (tests_append parts _).trans (List.append_nil _)

theorem tests_joined (connective : String) (rows : List (List Part)) :
    tests (joined connective rows) = rows.flatMap tests := by
  cases rows with
  | nil => rfl
  | cons first rest =>
      cases rest with
      | nil => exact (List.append_nil _).symm
      | cons second others => exact (tests_parenthesized _).trans (tests_join _ _)

theorem map_join (f : Test → Test) (separator : String) (rows : List (List Part)) :
    mapTests f (join separator rows) = join separator (rows.map (mapTests f)) := by
  induction rows with
  | nil => rfl
  | cons first rest ih =>
      cases rest with
      | nil => rfl
      | cons second others =>
          simp only [join, mapTests, List.map_append, List.map_cons, Part.mapTest] at ih ⊢
          rw [ih]

theorem map_parenthesized (f : Test → Test) (parts : List Part) :
    mapTests f (parenthesized parts) = parenthesized (mapTests f parts) := by
  simp [mapTests, parenthesized, Part.mapTest]

theorem map_joined (f : Test → Test) (connective : String) (rows : List (List Part)) :
    mapTests f (joined connective rows) = joined connective (rows.map (mapTests f)) := by
  cases rows with
  | nil => rfl
  | cons first rest =>
      cases rest with
      | nil => rfl
      | cons second others =>
          exact (map_parenthesized f _).trans (congrArg parenthesized (map_join f _ _))

end Parts

namespace Node

mutual
def parts (base : Fragment) (bound : Nat) : Node → List Part
  | .leaf test => [.leaf (base ++ [.text "->>", .place (bound + 1)]) (bound + 1) test]
  | .object members =>
    Parts.joined "AND" (memberParts (base ++ [.text "->", .place (bound + 1)]) (bound + 1) members)

def memberParts (base : Fragment) (bound : Nat) : List (String × Node) → List (List Part)
  | [] => []
  | (key, node) :: rest =>
    node.parts base bound ::
      memberParts base (bound + (node.emit base bound key).values.length) rest
end

mutual
def mapTests (f : Test → Test) : Node → Node
  | .leaf test => .leaf (f test)
  | .object members => .object (mapMembers f members)

def mapMembers (f : Test → Test) : List (String × Node) → List (String × Node)
  | [] => []
  | (key, node) :: rest => (key, node.mapTests f) :: mapMembers f rest
end

mutual
def tests : Node → List Test
  | .leaf test => [test]
  | .object members => memberTests members

def memberTests : List (String × Node) → List Test
  | [] => []
  | (_, node) :: rest => node.tests ++ memberTests rest
end

mutual
theorem sql_parts (node : Node) (base : Fragment) (bound : Nat) (key : String) :
    Parts.sql (node.parts base bound) = (node.emit base bound key).sql := by
  cases node with
  | leaf test => exact List.append_nil _
  | object members =>
      exact (Parts.sql_joined "AND" _).trans
        (congrArg (joined "AND") (sql_memberParts members _ (bound + 1)))

theorem sql_memberParts (members : List (String × Node)) (base : Fragment) (bound : Nat) :
    (memberParts base bound members).map Parts.sql =
      (emitMembers base bound members).map Emitted.sql := by
  cases members with
  | nil => rfl
  | cons member rest =>
      obtain ⟨key, node⟩ := member
      simp only [memberParts, emitMembers, List.map_cons, sql_parts node base bound key,
        sql_memberParts rest base]
end

mutual
theorem tests_parts (node : Node) (base : Fragment) (bound : Nat) :
    Parts.tests (node.parts base bound) = node.tests := by
  cases node with
  | leaf test => rfl
  | object members => exact (Parts.tests_joined "AND" _).trans (tests_memberParts members _ (bound + 1))

theorem tests_memberParts (members : List (String × Node)) (base : Fragment) (bound : Nat) :
    (memberParts base bound members).flatMap Parts.tests = memberTests members := by
  cases members with
  | nil => rfl
  | cons member rest =>
      obtain ⟨key, node⟩ := member
      simp only [memberParts, memberTests, List.flatMap_cons, tests_parts node base bound,
        tests_memberParts rest base]
end

end Node

def KeepsValues (f : Test → Test) : Prop :=
  ∀ (test : Test) (expr : Fragment) (bound : Nat),
    ((f test).emit expr bound).values = (test.emit expr bound).values

namespace Node

mutual
theorem values_mapTests (f : Test → Test) (kept : KeepsValues f) (node : Node) (base : Fragment)
    (bound : Nat) (key : String) :
    ((node.mapTests f).emit base bound key).values = (node.emit base bound key).values := by
  cases node with
  | leaf test => exact congrArg (.string key :: ·) (kept test _ (bound + 1))
  | object members =>
      exact congrArg (.string key :: ·) (values_mapMembers f kept members _ (bound + 1))

theorem values_mapMembers (f : Test → Test) (kept : KeepsValues f) (members : List (String × Node))
    (base : Fragment) (bound : Nat) :
    (emitMembers base bound (mapMembers f members)).flatMap Emitted.values =
      (emitMembers base bound members).flatMap Emitted.values := by
  cases members with
  | nil => rfl
  | cons member rest =>
      obtain ⟨key, node⟩ := member
      simp only [mapMembers, emitMembers, List.flatMap_cons, values_mapTests f kept node base bound key,
        values_mapMembers f kept rest base]
end

mutual
theorem parts_mapTests (f : Test → Test) (kept : KeepsValues f) (node : Node) (base : Fragment)
    (bound : Nat) : (node.mapTests f).parts base bound = Parts.mapTests f (node.parts base bound) := by
  cases node with
  | leaf test => rfl
  | object members =>
      exact (congrArg (Parts.joined "AND") (parts_mapMembers f kept members _ (bound + 1))).trans
        (Parts.map_joined f "AND" _).symm

theorem parts_mapMembers (f : Test → Test) (kept : KeepsValues f) (members : List (String × Node))
    (base : Fragment) (bound : Nat) :
    memberParts base bound (mapMembers f members) =
      (memberParts base bound members).map (Parts.mapTests f) := by
  cases members with
  | nil => rfl
  | cons member rest =>
      obtain ⟨key, node⟩ := member
      simp only [mapMembers, memberParts, List.map_cons, values_mapTests f kept node base bound key,
        parts_mapTests f kept node base bound, parts_mapMembers f kept rest base]
end

end Node

namespace Condition

def tupleParts (bound : Nat) : List (List (String × Node)) → List (List Part)
  | [] => []
  | tuple :: rest =>
    Parts.parenthesized (Parts.join " AND " (Node.memberParts [.text "p"] bound tuple)) ::
      tupleParts (bound + ((Node.emitMembers [.text "p"] bound tuple).flatMap Emitted.values).length)
        rest

def parts (column : Fragment) (bound : Nat) : Condition → List Part
  | .column test => [.leaf column bound test]
  | .document members => Parts.joined "AND" (Node.memberParts column bound members)
  | .someElement tuples =>
    .frame (.text "EXISTS (SELECT 1 FROM json_array_elements(" :: column ++
        [.text "::json) AS p WHERE "]) ::
      Parts.join " OR " (tupleParts bound tuples) ++ [.frame [.text ")"]]
  | other => [.frame (other.emit column bound).sql]

def mapTests (f : Test → Test) : Condition → Condition
  | .column test => .column (f test)
  | .document members => .document (Node.mapMembers f members)
  | .someElement tuples => .someElement (tuples.map (Node.mapMembers f))
  | other => other

def tests : Condition → List Test
  | .column test => [test]
  | .document members => Node.memberTests members
  | .someElement tuples => tuples.flatMap Node.memberTests
  | _ => []

theorem sql_tupleParts (tuples : List (List (String × Node))) (bound : Nat) :
    (tupleParts bound tuples).map Parts.sql = (emitTuples bound tuples).map Emitted.sql := by
  induction tuples generalizing bound with
  | nil => rfl
  | cons tuple rest ih =>
      simp only [tupleParts, emitTuples, List.map_cons, ih, Parts.sql_parenthesized, Parts.sql_join,
        Node.sql_memberParts]

theorem sql_parts (condition : Condition) (column : Fragment) (bound : Nat) :
    Parts.sql (condition.parts column bound) = (condition.emit column bound).sql := by
  cases condition with
  | column test => exact List.append_nil _
  | document members =>
      exact (Parts.sql_joined "AND" _).trans
        (congrArg (joined "AND") (Node.sql_memberParts members column bound))
  | someElement tuples =>
      simp [parts, emit, Part.sql_frame, Parts.sql_join, sql_tupleParts]
  | _ => exact List.append_nil _

theorem tests_tupleParts (tuples : List (List (String × Node))) (bound : Nat) :
    (tupleParts bound tuples).flatMap Parts.tests = tuples.flatMap Node.memberTests := by
  induction tuples generalizing bound with
  | nil => rfl
  | cons tuple rest ih =>
      simp only [tupleParts, List.flatMap_cons, ih, Parts.tests_parenthesized, Parts.tests_join,
        Node.tests_memberParts]

theorem tests_parts (condition : Condition) (column : Fragment) (bound : Nat) :
    Parts.tests (condition.parts column bound) = condition.tests := by
  cases condition with
  | column test => rfl
  | document members =>
      exact (Parts.tests_joined "AND" _).trans (Node.tests_memberParts members column bound)
  | someElement tuples =>
      have inner : Parts.tests (Parts.join " OR " (tupleParts bound tuples)) =
          tuples.flatMap Node.memberTests :=
        (Parts.tests_join " OR " _).trans (tests_tupleParts tuples bound)
      exact (Parts.tests_append _ _).trans ((List.append_nil _).trans inner)
  | _ => rfl

variable (f : Test → Test) (kept : KeepsValues f)

include kept

theorem values_mapTuples (tuples : List (List (String × Node))) (bound : Nat) :
    (emitTuples bound (tuples.map (Node.mapMembers f))).flatMap Emitted.values =
      (emitTuples bound tuples).flatMap Emitted.values := by
  induction tuples generalizing bound with
  | nil => rfl
  | cons tuple rest ih =>
      simp only [List.map_cons, emitTuples, List.flatMap_cons, ih, Node.values_mapMembers f kept]

theorem values_mapTests (condition : Condition) (column : Fragment) (bound : Nat) :
    ((condition.mapTests f).emit column bound).values = (condition.emit column bound).values := by
  cases condition with
  | column test => exact kept test column bound
  | document members => exact Node.values_mapMembers f kept members column bound
  | someElement tuples => exact values_mapTuples f kept tuples bound
  | _ => rfl

theorem parts_mapTuples (tuples : List (List (String × Node))) (bound : Nat) :
    tupleParts bound (tuples.map (Node.mapMembers f)) =
      (tupleParts bound tuples).map (Parts.mapTests f) := by
  induction tuples generalizing bound with
  | nil => rfl
  | cons tuple rest ih =>
      simp only [List.map_cons, tupleParts, ih, Node.values_mapMembers f kept,
        Node.parts_mapMembers f kept, Parts.map_parenthesized, Parts.map_join]

theorem parts_mapTests (condition : Condition) (column : Fragment) (bound : Nat) :
    (condition.mapTests f).parts column bound = Parts.mapTests f (condition.parts column bound) := by
  cases condition with
  | column test => rfl
  | document members =>
      exact (congrArg (Parts.joined "AND") (Node.parts_mapMembers f kept members column bound)).trans
        (Parts.map_joined f "AND" _).symm
  | someElement tuples =>
      have inner : Parts.join " OR " (tupleParts bound (tuples.map (Node.mapMembers f))) =
          Parts.mapTests f (Parts.join " OR " (tupleParts bound tuples)) := by
        rw [parts_mapTuples f kept, Parts.map_join]
      simp only [mapTests, parts, inner]
      simp [Parts.mapTests, Part.mapTest]
  | _ => rfl

end Condition

end EntitySchema

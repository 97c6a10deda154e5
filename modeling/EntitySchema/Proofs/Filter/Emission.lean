import EntitySchema.Filter.Condition
import EntitySchema.Proofs.Sql.Numbering

set_option autoImplicit false

namespace EntitySchema

open Sql Sql.Fragment

theorem joined_numbered (first last : Nat) (connective : String) (fragments : List Fragment)
    (row : RowNumbered first last fragments)
    (clean : plainText (" " ++ connective ++ " ") = true) :
    (joined connective fragments).Numbered first last := by
  have several := numbered_parenthesized first last _
    (join_numbered first last _ fragments row clean)
  cases fragments with
  | nil => exact several
  | cons fragment rest =>
      cases rest with
      | nil => exact ⟨row.readable fragment (by simp), by simpa [joined] using row.counted⟩
      | cons _ _ => exact several

theorem cast_numbered (cast : Cast) (expr : Fragment) (first last : Nat)
    (numbered : expr.Numbered first last) : (cast.apply expr).Numbered first last := by
  cases cast with
  | plain => exact numbered
  | lower =>
      exact numbered_append_text _ _ _ ")" (numbered_text_cons _ _ _ "LOWER(" numbered (by decide))
        (by decide)
  | numeric =>
      exact numbered_append_text _ _ _ " AS NUMERIC)"
        (numbered_text_cons _ _ _ "CAST(" numbered (by decide)) (by decide)
  | boolean =>
      exact numbered_append_text _ _ _ " AS BOOLEAN)"
        (numbered_text_cons _ _ _ "CAST(" numbered (by decide)) (by decide)

def Emitted.Numbered (first bound : Nat) (emitted : Emitted) : Prop :=
  emitted.sql.Numbered first (bound + emitted.values.length)

theorem test_numbered (test : Test) (expr : Fragment) (first bound : Nat)
    (numbered : expr.Numbered first bound) : (test.emit expr bound).Numbered first bound := by
  cases test with
  | isNull negated =>
      exact numbered_append_text _ _ _ _ numbered (by cases negated <;> decide)
  | compare cast comparison value =>
      exact numbered_append_place _ _ _ _ (cast_numbered cast expr _ _ numbered)
        (by cases comparison <;> decide)
  | between cast low high =>
      have lower := numbered_append_place _ _ _ " >= " (cast_numbered cast expr _ _ numbered)
        (by decide)
      have again := cast_numbered cast expr _ _
        (numbered_again _ _ (bound + 1) expr numbered (by omega))
      have upper := numbered_append_place _ _ _ " <= " again (by decide)
      have both := numbered_parenthesized _ _ _
        (numbered_append _ _ _ _ _ " AND " lower (by decide) upper)
      simpa [Emitted.Numbered, Test.emit] using both
  | anyOf cast values =>
      have place := numbered_append_place _ _ _ " = ANY(" (cast_numbered cast expr _ _ numbered)
        (by decide)
      simpa [Emitted.Numbered, Test.emit] using numbered_append_text _ _ _ ")" place (by decide)

def boundValues (parts : List Emitted) : List Json := parts.flatMap Emitted.values

def PartsNumbered (first bound : Nat) (parts : List Emitted) : Prop :=
  RowNumbered first (bound + (boundValues parts).length) (parts.map Emitted.sql)

theorem parts_cons (first bound : Nat) (part : Emitted) (rest : List Emitted)
    (numbered : part.Numbered first bound)
    (others : PartsNumbered (bound + part.values.length) (bound + part.values.length) rest) :
    PartsNumbered first bound (part :: rest) := by
  have row := row_cons _ _ _ _ _ numbered others
  simpa [PartsNumbered, boundValues, Nat.add_assoc] using row

mutual
def Node.Full : Node → Prop
  | .leaf _ => True
  | .object members => members ≠ [] ∧ Node.AllFull members

def Node.AllFull : List (String × Node) → Prop
  | [] => True
  | (_, node) :: rest => node.Full ∧ Node.AllFull rest
end

theorem all_full (members : List (String × Node)) (full : ∀ member ∈ members, member.2.Full) :
    Node.AllFull members := by
  induction members with
  | nil => trivial
  | cons member rest ih =>
      exact ⟨full member (by simp), ih fun other inRest => full other (by simp [inRest])⟩

mutual
theorem node_numbered (node : Node) (full : node.Full) (base : Fragment) (first bound : Nat)
    (key : String) (numbered : base.Numbered first bound) :
    (node.emit base bound key).Numbered first bound := by
  cases node with
  | leaf test =>
      have path := numbered_append_place _ _ _ "->>" numbered (by decide)
      have inner := test_numbered test _ _ _ path
      simpa [Emitted.Numbered, Node.emit, Nat.add_assoc, Nat.add_comm 1] using inner
  | object members =>
      have path := numbered_append_place _ _ _ "->" numbered (by decide)
      have parts := members_numbered members full.2 _ _ _ path (.inl full.1)
      have inner := joined_numbered _ _ "AND" _ parts (by decide)
      simpa [Emitted.Numbered, Node.emit, boundValues, Nat.add_assoc, Nat.add_comm 1] using inner

-- The first member writes what is still unwritten of the path, the others repeat it.
theorem members_numbered (members : List (String × Node)) (full : Node.AllFull members)
    (base : Fragment) (first bound : Nat) (numbered : base.Numbered first bound)
    (written : members ≠ [] ∨ first = bound) :
    PartsNumbered first bound (Node.emitMembers base bound members) := by
  cases members with
  | nil =>
      have same : first = bound := written.resolve_left (by simp)
      subst same
      exact row_nil first
  | cons member rest =>
      obtain ⟨key, node⟩ := member
      have here := node_numbered node full.1 base first bound key numbered
      have grown : bound ≤ bound + (node.emit base bound key).values.length := by omega
      have others := members_numbered rest full.2 base _ _
        (numbered_again _ _ _ base numbered grown) (.inr rfl)
      exact parts_cons _ _ _ _ here others
end

namespace Condition

def Full : Condition → Prop
  | .document members => Node.AllFull members
  | .someElement tuples => ∀ tuple ∈ tuples, Node.AllFull tuple
  | _ => True

end Condition

theorem empty_numbered (known : Nat) : Fragment.Numbered known known [] :=
  ⟨readable_nil, .done known⟩

theorem element_numbered (known : Nat) : Fragment.Numbered known known [.text "p"] :=
  ⟨readable_single _ (show plainText "p" = true by decide), .done known⟩

theorem tuples_numbered (tuples : List (List (String × Node))) (bound : Nat)
    (full : ∀ tuple ∈ tuples, Node.AllFull tuple) :
    PartsNumbered bound bound (Condition.emitTuples bound tuples) := by
  induction tuples generalizing bound with
  | nil => exact row_nil bound
  | cons tuple rest ih =>
      have parts := members_numbered tuple (full tuple (by simp)) _ _ _ (element_numbered bound)
        (.inr rfl)
      have here := numbered_parenthesized _ _ _ (join_numbered _ _ " AND " _ parts (by decide))
      exact parts_cons _ _ _ _ here (ih _ fun other member => full other (by simp [member]))

theorem holders_numbered (values : List Json) (column : Fragment) (bound : Nat)
    (numbered : column.Numbered 0 0) :
    RowNumbered bound (bound + values.length)
      (values.mapIdx fun i _ =>
        [.place (bound + i + 1), .text " = ANY("] ++ column ++ [.text ")"]) := by
  induction values generalizing bound with
  | nil => exact row_nil bound
  | cons value rest ih =>
      have place : Fragment.Numbered bound (bound + 1) [.place (bound + 1)] :=
        ⟨readable_single _ trivial, .fresh bound _ [] (.done _)⟩
      have again := numbered_again 0 0 (bound + 1) column numbered (by omega)
      have here := numbered_append_text _ _ _ ")"
        (numbered_append _ _ _ _ _ " = ANY(" place (by decide) again) (by decide)
      have others := ih (bound + 1)
      have shifted : ∀ i, bound + 1 + i + 1 = bound + (i + 1) + 1 := by omega
      have total : bound + 1 + rest.length = bound + (rest.length + 1) := by omega
      simp only [shifted, total] at others
      rw [List.mapIdx_cons]
      exact row_cons _ _ _ _ _ here others

theorem condition_numbered (condition : Condition) (full : condition.Full) (column : Fragment)
    (bound : Nat) (numbered : column.Numbered 0 0) :
    (condition.emit column bound).Numbered bound bound := by
  have known := numbered_again 0 0 bound column numbered (by omega)
  cases condition with
  | column test => exact test_numbered test column bound bound known
  | document members =>
      exact joined_numbered _ _ "AND" _ (members_numbered members full _ _ _ known (.inr rfl))
        (by decide)
  | someElement tuples =>
      have disjunction := join_numbered _ _ " OR " _ (tuples_numbered tuples bound full) (by decide)
      have source := numbered_text_cons _ _ _
        "EXISTS (SELECT 1 FROM json_array_elements(" known (by decide)
      exact numbered_append_text _ _ _ ")"
        (numbered_append _ _ _ _ _ "::json) AS p WHERE " source (by decide) disjunction) (by decide)
  | holdsAny values =>
      exact joined_numbered _ _ "OR" _ (holders_numbered values column bound numbered) (by decide)
  | within minLng minLat maxLng maxLat =>
      have west := numbered_append_place _ _ [] "ST_Contains(ST_MakeEnvelope("
        (empty_numbered bound) (by decide)
      have south := numbered_append_place _ _ _ ", " west (by decide)
      have east := numbered_append_place _ _ _ ", " south (by decide)
      have north := numbered_append_place _ _ _ ", " east (by decide)
      have again := numbered_again 0 0 (bound + 4) column numbered (by omega)
      exact numbered_append_text _ _ _ ")"
        (numbered_append _ _ _ _ _ (", " ++ srid ++ "), ") north (by decide) again) (by decide)
  | near lng lat radius =>
      have source := numbered_text_cons _ _ _ "ST_DWithin(" known (by decide)
      have east := numbered_append_place _ _ _ ", ST_SetSRID(ST_MakePoint(" source (by decide)
      have north := numbered_append_place _ _ _ ", " east (by decide)
      have distance := numbered_append_place _ _ _ ("), " ++ srid ++ ")::geography, ") north
        (by decide)
      have all := numbered_append_text _ _ _ ")" distance (by decide)
      simpa [Emitted.Numbered, Condition.emit] using all

end EntitySchema

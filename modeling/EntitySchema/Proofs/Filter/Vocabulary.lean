import EntitySchema.Proofs.Filter.Predicate
import EntitySchema.Proofs.Sql.Vocabulary

set_option autoImplicit false

namespace EntitySchema

open Sql Sql.Fragment

section Emission

variable (names : List String)

theorem joined_from (connective : String) (fixed : " " ++ connective ++ " " ∈ vocabulary)
    (fragments : List Fragment) (known : ∀ fragment ∈ fragments, fragment.From names) :
    (joined connective fragments).From names := by
  have several := from_parenthesized names _ (from_join names _ fixed fragments known)
  cases fragments with
  | nil => exact several
  | cons fragment rest =>
      cases rest with
      | nil => exact known fragment (by simp)
      | cons _ _ => exact several

theorem cast_from (cast : Cast) (expr : Fragment) (known : expr.From names) :
    (cast.apply expr).From names := by
  have closing : ")" ∈ vocabulary := by decide
  cases cast with
  | plain => exact known
  | lower =>
      have opening : "LOWER(" ∈ vocabulary := by decide
      simp [Cast.apply, known, opening, closing]
  | numeric =>
      have opening : "CAST(" ∈ vocabulary := by decide
      have closing : " AS NUMERIC)" ∈ vocabulary := by decide
      simp [Cast.apply, known, opening, closing]
  | boolean =>
      have opening : "CAST(" ∈ vocabulary := by decide
      have closing : " AS BOOLEAN)" ∈ vocabulary := by decide
      simp [Cast.apply, known, opening, closing]

theorem test_from (test : Test) (expr : Fragment) (bound : Nat) (known : expr.From names) :
    (test.emit expr bound).sql.From names := by
  cases test with
  | isNull negated =>
      have fixed : nullText negated ∈ vocabulary := by cases negated <;> decide
      simp [Test.emit, known, fixed]
  | compare cast comparison value =>
      have fixed : " " ++ comparison.symbol ++ " " ∈ vocabulary := by cases comparison <;> decide
      simp [Test.emit, cast_from names cast expr known, fixed]
  | between cast low high =>
      have lower : " >= " ∈ vocabulary := by decide
      have both : " AND " ∈ vocabulary := by decide
      have upper : " <= " ∈ vocabulary := by decide
      exact from_parenthesized names _
        (by simp [cast_from names cast expr known, lower, both, upper])
  | anyOf cast values =>
      have opening : " = ANY(" ∈ vocabulary := by decide
      have closing : ")" ∈ vocabulary := by decide
      simp [Test.emit, cast_from names cast expr known, opening, closing]

mutual
theorem node_from (node : Node) (base : Fragment) (bound : Nat) (key : String)
    (known : base.From names) : (node.emit base bound key).sql.From names := by
  cases node with
  | leaf test =>
      have arrow : "->>" ∈ vocabulary := by decide
      exact test_from names test _ _ (by simp [known, arrow])
  | object members =>
      have arrow : "->" ∈ vocabulary := by decide
      have inner := members_from members (base ++ [.text "->", .place (bound + 1)]) (bound + 1)
        (by simp [known, arrow])
      exact joined_from names "AND" (by decide) _ inner

theorem members_from (members : List (String × Node)) (base : Fragment) (bound : Nat)
    (known : base.From names) :
    ∀ fragment ∈ (Node.emitMembers base bound members).map Emitted.sql, fragment.From names := by
  cases members with
  | nil => simp [Node.emitMembers]
  | cons member rest =>
      obtain ⟨key, node⟩ := member
      have here := node_from node base bound key known
      have later := members_from rest base (bound + (node.emit base bound key).values.length) known
      simpa [Node.emitMembers, here] using later
end

theorem tuples_from (tuples : List (List (String × Node))) (bound : Nat) :
    ∀ fragment ∈ (Condition.emitTuples bound tuples).map Emitted.sql, fragment.From names := by
  induction tuples generalizing bound with
  | nil => simp [Condition.emitTuples]
  | cons tuple rest ih =>
      have element : From names [.text "p"] := by
        have fixed : "p" ∈ vocabulary := by decide
        simp [fixed]
      have parts := members_from names tuple [.text "p"] bound element
      have here := from_parenthesized names _ (from_join names " AND " (by decide) _ parts)
      have later := ih (bound + (boundValues (Node.emitMembers [.text "p"] bound tuple)).length)
      intro fragment member
      rcases List.mem_cons.mp member with same | inRest
      · exact same ▸ here
      · exact later fragment inRest

theorem condition_from (condition : Condition) (column : Fragment) (bound : Nat)
    (known : column.From names) : (condition.emit column bound).sql.From names := by
  have closing : ")" ∈ vocabulary := by decide
  have comma : ", " ∈ vocabulary := by decide
  cases condition with
  | column test => exact test_from names test column bound known
  | document members =>
      exact joined_from names "AND" (by decide) _ (members_from names members column bound known)
  | someElement tuples =>
      have opening : "EXISTS (SELECT 1 FROM json_array_elements(" ∈ vocabulary := by decide
      have source : "::json) AS p WHERE " ∈ vocabulary := by decide
      have parts := from_join names " OR " (by decide) _ (tuples_from names tuples bound)
      simp [Condition.emit, known, parts, opening, source, closing]
  | holdsAny values =>
      have opening : " = ANY(" ∈ vocabulary := by decide
      refine joined_from names "OR" (by decide) _ ?_
      intro fragment member
      obtain ⟨i, _, same⟩ := List.mem_mapIdx.mp member
      subst same
      simp [known, opening, closing]
  | within minLng minLat maxLng maxLat =>
      have opening : "ST_Contains(ST_MakeEnvelope(" ∈ vocabulary := by decide
      have system : ", " ++ srid ++ "), " ∈ vocabulary := by decide
      simp [Condition.emit, known, opening, system, comma, closing]
  | near lng lat radius =>
      have opening : "ST_DWithin(" ∈ vocabulary := by decide
      have center : ", ST_SetSRID(ST_MakePoint(" ∈ vocabulary := by decide
      have system : "), " ++ srid ++ ")::geography, " ∈ vocabulary := by decide
      simp [Condition.emit, known, opening, center, system, comma, closing]

end Emission

theorem compile_from (e : Entity) (modes : MatchModes) (field : String) (filter : Filter)
    (bound : Nat) (emitted : Emitted)
    (compiled : filter.compile e modes field bound = .ok emitted) :
    emitted.sql.From (e.columns .select) := by
  obtain ⟨condition, accepted, same⟩ := (map_ok_iff _ _ _).mp compiled
  subst same
  obtain ⟨p, found, readable, _⟩ :=
    Interpretation.condition_accepted e modes field filter condition accepted
  have column := selectable_column e field p found readable
  exact condition_from _ condition _ bound (by simp [column])

namespace Compiled

def Reads (e : Entity) (c : Compiled) : Prop :=
  ∀ fragment ∈ c.fragments, fragment.From (e.columns .select)

end Compiled

theorem filterMap_reads (e : Entity) (modes : MatchModes) (filters : FilterMap) (bound : Nat) :
    (filters.compile e modes bound).Reads e := by
  refine filterMap_fragments e modes _ (compile_from e modes) ?_ filters bound
  intro connective fragments known
  exact joined_from _ connective.name (by cases connective <;> decide) fragments known

end EntitySchema

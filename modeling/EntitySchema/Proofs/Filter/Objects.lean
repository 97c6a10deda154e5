import EntitySchema.Proofs.Filter.Binding
import EntitySchema.Proofs.Filter.Negation
import EntitySchema.Proofs.Filter.Paths

set_option autoImplicit false

namespace EntitySchema

open Interpretation

namespace Json

inductive Holds : Json → Nat → Json → Prop where
  | self (value : Json) : Holds value 0 value
  | under (members : List (String × Json)) (member : String × Json) (depth : Nat) (inner : Json)
      (declared : member ∈ members) (held : Holds member.2 depth inner) :
      Holds (.object members) (depth + 1) inner

def FullBelow (depth : Nat) (value : Json) : Prop :=
  ∀ below members, value.Holds below (.object members) →
    members ≠ [] ∧ depth + below < maxObjectDepth

def ListsScalars (value : Json) : Prop :=
  ∀ below items, value.Holds below (.array items) → items ≠ [] ∧ ∀ item ∈ items, isScalar item = true

mutual
def memberCount : Json → Nat
  | .object members => memberCounts members
  | _ => 0

def memberCounts : List (String × Json) → Nat
  | [] => 0
  | (_, value) :: rest => 1 + value.memberCount + memberCounts rest
end

def presentLeaves (value : Json) : List Json := value.leaves.filter fun leaf => !leaf.isNull

theorem holds_scalar (value : Json) (scalar : ∀ members, value ≠ .object members) (below : Nat)
    (inner : Json) : value.Holds below inner ↔ below = 0 ∧ inner = value := by
  constructor
  · intro held
    cases held with
    | self => exact ⟨rfl, rfl⟩
    | under members => exact absurd rfl (scalar members)
  · rintro ⟨rfl, rfl⟩
    exact .self inner

theorem holds_object (members : List (String × Json)) (below : Nat) (inner : Json) :
    (Json.object members).Holds below inner ↔
      (below = 0 ∧ inner = .object members) ∨
        ∃ member ∈ members, ∃ depth, below = depth + 1 ∧ member.2.Holds depth inner := by
  constructor
  · intro held
    cases held with
    | self => exact .inl ⟨rfl, rfl⟩
    | under _ member depth _ declared held => exact .inr ⟨member, declared, depth, rfl, held⟩
  · rintro (⟨rfl, rfl⟩ | ⟨member, declared, depth, rfl, held⟩)
    · exact .self _
    · exact .under members member depth inner declared held

theorem fullBelow_object (depth : Nat) (members : List (String × Json)) :
    FullBelow depth (.object members) ↔
      (members ≠ [] ∧ depth < maxObjectDepth) ∧
        ∀ member ∈ members, FullBelow (depth + 1) member.2 := by
  constructor
  · intro full
    refine ⟨full 0 members (.self _), fun member declared below inner held => ?_⟩
    have here := full (below + 1) inner (.under members member below _ declared held)
    exact ⟨here.1, by omega⟩
  · rintro ⟨here, later⟩ below inner held
    rcases (holds_object members below _).mp held with ⟨rfl, same⟩ | ⟨member, declared, above, rfl, deep⟩
    · cases same
      exact here
    · have inside := later member declared above inner deep
      exact ⟨inside.1, by omega⟩

theorem fullBelow_scalar (depth : Nat) (value : Json) (scalar : ∀ members, value ≠ .object members) :
    FullBelow depth value := by
  intro below members held
  exact absurd ((holds_scalar value scalar below _).mp held).2.symm (scalar members)

theorem listsScalars_object (members : List (String × Json)) :
    ListsScalars (.object members) ↔ ∀ member ∈ members, ListsScalars member.2 := by
  constructor
  · intro listed member declared below items held
    exact listed (below + 1) items (.under members member below _ declared held)
  · intro listed below items held
    rcases (holds_object members below _).mp held with ⟨_, same⟩ | ⟨member, declared, above, _, deep⟩
    · cases same
    · exact listed member declared above items deep

theorem listsScalars_array (items : List Json) :
    ListsScalars (.array items) ↔ items ≠ [] ∧ ∀ item ∈ items, isScalar item = true := by
  constructor
  · intro listed
    exact listed 0 items (.self _)
  · intro scalars below inner held
    cases ((holds_scalar _ (by simp) below _).mp held).2
    exact scalars

theorem listsScalars_leaf (value : Json) (scalar : ∀ members, value ≠ .object members)
    (single : ∀ items, value ≠ .array items) : ListsScalars value := by
  intro below items held
  exact absurd ((holds_scalar value scalar below _).mp held).2.symm (single items)

end Json

namespace Interpretation

theorem numberValue_accepts (value : Json) (number : value.isNumber = true) :
    numberValue value = .ok value := by
  cases value <;> first | rfl | cases number

theorem textValue_accepts (value : Json) :
    (∃ result, textValue value = .ok result) ↔ isScalar value = true := by
  cases value <;> simp [textValue, textOf?, isScalar]

theorem anyOf_accepts (cast : Cast) (convert : Conversion) (items : List Json) :
    (∃ test, anyOf cast convert (.array items) = .ok test) ↔
      items ≠ [] ∧ ∀ item ∈ items, ∃ result, convert item = .ok result := by
  cases items with
  | nil => simp [anyOf]
  | cons first rest =>
      rw [← mapM_accepts]
      simp only [anyOf, bind_ok_iff, pure_ok_iff]
      constructor
      · rintro ⟨_, values, converted, _⟩
        exact ⟨by simp, values, converted⟩
      · rintro ⟨_, values, converted⟩
        exact ⟨_, values, converted, rfl⟩

theorem leaf_list_accepts (items : List Json) :
    (∃ test, leaf .equals (.array items) = .ok test) ↔ (Json.array items).ListsScalars := by
  rw [Json.listsScalars_array]
  simp only [leaf]
  split
  · rename_i numbers
    simp only [Bool.and_eq_true, List.all_eq_true] at numbers
    rw [anyOf_accepts]
    refine and_congr_right fun _ => ⟨fun _ item listed => ?_, fun _ item listed => ?_⟩
    · have number := numbers.2 item listed
      cases item <;> first | rfl | cases number
    · exact ⟨item, numberValue_accepts item (numbers.2 item listed)⟩
  · rw [anyOf_accepts]
    simp only [textValue_accepts]

theorem leaf_accepts (value : Json) (scalar : ∀ members, value ≠ .object members) :
    (∃ test, leaf .equals value = .ok test) ↔ value.ListsScalars := by
  cases value with
  | object members => exact absurd rfl (scalar members)
  | array items => exact leaf_list_accepts items
  | _ => exact ⟨fun _ => Json.listsScalars_leaf _ scalar (by simp), fun _ => ⟨_, rfl⟩⟩

mutual
-- By induction on the value. An object hands its members on one level deeper, and is asked for as
-- long as there is room on its own level.
theorem node_accepts (depth : Nat) (value : Json) :
    (∃ result, node .equals depth value = .ok result) ↔
      value.FullBelow depth ∧ value.ListsScalars := by
  cases value with
  | object members =>
      rw [Json.fullBelow_object, Json.listsScalars_object]
      have inside := nodes_accept (depth + 1) members
      constructor
      · rintro ⟨result, accepted⟩
        obtain ⟨shallow, given, inner, innerAccepted, _⟩ :=
          node_object .equals depth members result accepted
        have all := inside.mp ⟨inner, innerAccepted⟩
        exact ⟨⟨⟨given, shallow⟩, fun member declared => (all member declared).1⟩,
          fun member declared => (all member declared).2⟩
      · rintro ⟨⟨⟨given, shallow⟩, full⟩, listed⟩
        obtain ⟨inner, innerAccepted⟩ :=
          inside.mpr fun member declared => ⟨full member declared, listed member declared⟩
        obtain ⟨first, rest, rfl⟩ := List.exists_cons_of_ne_nil given
        refine ⟨.object inner, ?_⟩
        rw [node_members, if_neg (by omega), innerAccepted]
        rfl
  | _ =>
      rw [node_scalar .equals depth _ (by simp), ← leaf_accepts _ (by simp)]
      refine ⟨fun ⟨_, accepted⟩ => ?_, fun ⟨_, test, accepted⟩ => ⟨.leaf test, ?_⟩⟩
      · obtain ⟨test, tested, _⟩ := (map_ok_iff _ _ _).mp accepted
        exact ⟨Json.fullBelow_scalar depth _ (by simp), test, tested⟩
      · rw [accepted]
        rfl

theorem nodes_accept (depth : Nat) (members : List (String × Json)) :
    (∃ results, nodes .equals depth members = .ok results) ↔
      ∀ member ∈ members, member.2.FullBelow depth ∧ member.2.ListsScalars := by
  cases members with
  | nil => exact ⟨fun _ _ none => absurd none List.not_mem_nil, fun _ => ⟨[], rfl⟩⟩
  | cons member rest =>
      obtain ⟨key, value⟩ := member
      have here := node_accepts depth value
      have later := nodes_accept depth rest
      rw [List.forall_mem_cons, ← here, ← later]
      simp only [nodes, bind_ok_iff, pure_ok_iff]
      constructor
      · rintro ⟨_, first, firstAccepted, others, othersAccepted, _⟩
        exact ⟨⟨first, firstAccepted⟩, others, othersAccepted⟩
      · rintro ⟨⟨first, firstAccepted⟩, others, othersAccepted⟩
        exact ⟨_, first, firstAccepted, others, othersAccepted, rfl⟩
end

theorem leaf_binds (value : Json) (test : Test) (scalar : ∀ members, value ≠ .object members)
    (accepted : leaf .equals value = .ok test) :
    test.bound.length = value.memberCount + value.presentLeaves.length := by
  cases leaf_asked value test scalar accepted <;> rfl

mutual
theorem node_binds (depth : Nat) (value : Json) (result : Node)
    (accepted : node .equals depth value = .ok result) (base : Sql.Fragment) (bound : Nat)
    (key : String) :
    (result.emit base bound key).values.length =
      1 + value.memberCount + value.presentLeaves.length := by
  cases value with
  | object members =>
      obtain ⟨_, _, inner, innerAccepted, rfl⟩ :=
        node_object .equals depth members result accepted
      have inside := nodes_bind (depth + 1) members inner innerAccepted
        (base ++ [.text "->", .place (bound + 1)]) (bound + 1)
      rw [Node.emit, List.length_cons, inside, Json.memberCount, Json.presentLeaves, Json.leaves]
      omega
  | _ =>
      obtain ⟨test, tested, rfl⟩ := node_leaf .equals depth _ result (by simp) accepted
      have here := leaf_binds _ test (by simp) tested
      rw [Node.emit, List.length_cons, test_values, here]
      omega

theorem nodes_bind (depth : Nat) (members : List (String × Json)) (results : List (String × Node))
    (accepted : nodes .equals depth members = .ok results) (base : Sql.Fragment) (bound : Nat) :
    ((Node.emitMembers base bound results).flatMap Emitted.values).length =
      Json.memberCounts members +
        ((Json.memberLeaves members).filter fun leaf => !leaf.isNull).length := by
  cases members with
  | nil =>
      cases accepted
      rfl
  | cons member rest =>
      obtain ⟨key, value⟩ := member
      simp only [nodes, bind_ok_iff, pure_ok_iff] at accepted
      obtain ⟨first, firstAccepted, others, othersAccepted, rfl⟩ := accepted
      have here := node_binds depth value first firstAccepted base bound key
      have later := nodes_bind depth rest others othersAccepted base
        (bound + (first.emit base bound key).values.length)
      rw [Json.presentLeaves] at here
      rw [Node.emitMembers, List.flatMap_cons, List.length_append, later, here, Json.memberCounts,
        Json.memberLeaves, List.filter_append, List.length_append]
      omega
end

theorem document_accepts (members : List (String × Json)) :
    (∃ result, document .equals members = .ok result) ↔
      (Json.object members).FullBelow 0 ∧ (Json.object members).ListsScalars := by
  rw [← node_accepts]
  cases members with
  | nil => simp [document, node, maxObjectDepth]
  | cons first rest =>
      rw [node_members, if_neg (by decide), document]
      · cases nodes .equals 1 (first :: rest) <;> simp [Except.map]
      · simp

theorem requested_equals (modes : MatchModes) (filter : Filter) (members : List (String × Json))
    (equally : filter.TextMode .equals) :
    ∃ requested, requestedMode filter = .ok requested ∧
      modeFor modes .string requested (.object members) = .ok .equals := by
  unfold Filter.TextMode at equally
  unfold requestedMode
  cases asked : filter.matchMode with
  | none => exact ⟨none, rfl, rfl⟩
  | some name =>
      rw [asked] at equally
      exact ⟨some .equals, by simp [equally], Filter.modeFor_equals modes _⟩

theorem object_document (e : Entity) (modes : MatchModes) (field : String) (p : Property)
    (filter : Filter) (members : List (String × Json)) (found : e.property? field = some p)
    (readable : p.appliesTo .select = true) (textual : p.type.category = some .string)
    (plain : isAggregate field = false) (object : filter.value = .object members)
    (equally : filter.TextMode .equals) :
    condition e modes field filter = document .equals members := by
  have key : p.key = field := (property_found e field p found).2
  obtain ⟨requested, named, legal⟩ := requested_equals modes filter members equally
  rw [condition_readable e modes field p filter found readable]
  exact onProperty_document modes p filter requested .equals members (key ▸ plain) textual object
    named legal

end Interpretation

theorem object_accepted_iff (e : Entity) (modes : MatchModes) (field : String) (p : Property)
    (filter : Filter) (members : List (String × Json)) (args : List Json)
    (found : e.property? field = some p) (readable : p.appliesTo .select = true)
    (textual : p.type.category = some .string) (plain : isAggregate field = false)
    (object : filter.value = .object members) (equally : filter.TextMode .equals) :
    ((∃ fragment bound, filter.compileOnto e modes field args = (.ok fragment, bound)) ↔
      filter.value.FullBelow 0 ∧ filter.value.ListsScalars) ∧
    ∀ fragment bound, filter.compileOnto e modes field args = (.ok fragment, bound) →
      ∃ asked, bound = args ++ asked ∧
        asked.length = filter.value.memberCount + filter.value.presentLeaves.length := by
  have means := object_document e modes field p filter members found readable textual plain
    object equally
  rw [compileOnto_eq, Filter.compile, means, object, ← document_accepts]
  cases outcome : document .equals members with
  | error anomaly => simp [Except.map]
  | ok result =>
      refine ⟨⟨fun _ => ⟨result, rfl⟩, fun _ => ⟨_, _, rfl⟩⟩, ?_⟩
      rintro fragment bound compiled
      obtain ⟨inner, innerAccepted, rfl⟩ := document_accepted .equals members result outcome
      cases compiled
      exact ⟨_, rfl, nodes_bind 1 members inner innerAccepted _ _⟩

def nestedList : Nat → Json
  | 0 => .array [.ofCount 2, .string "x"]
  | depth + 1 => .object [("gone", .null), ("next", nestedList depth)]

def nestedListFilter (depth : Nat) : Filter := ⟨nestedList depth, none, none, none⟩

theorem nestedList_limit :
    (∃ fragment bound,
      (nestedListFilter 8).compileOnto orders .standard "meta" [.null] = (.ok fragment, bound) ∧
      bound.length = 1 + ((nestedList 8).memberCount + (nestedList 8).presentLeaves.length)) ∧
    (nestedList 8).memberCount = 16 ∧ (nestedList 8).presentLeaves.length = 1 ∧
    (nestedList 8).FullBelow 0 ∧ ¬((nestedList 9).FullBelow 0 ∧ (nestedList 9).ListsScalars) := by
  obtain ⟨p, found⟩ := Option.isSome_iff_exists.mp
    (by decide +kernel : (orders.property? "meta").isSome = true)
  have textual : (orders.property? "meta").bind (·.type.category) = some .string := by
    decide +kernel
  have readable : (orders.property? "meta").any (·.appliesTo .select) = true := by decide +kernel
  rw [found] at textual readable
  have eight := object_accepted_iff orders .standard "meta" p (nestedListFilter 8) _ [.null] found
    readable textual (by decide +kernel) rfl rfl
  have nine := object_accepted_iff orders .standard "meta" p (nestedListFilter 9) _ [.null] found
    readable textual (by decide +kernel) rfl rfl
  have emission := ok_getD ((nestedListFilter 8).compile orders .standard "meta" [Json.null].length)
    ⟨[], []⟩ (by decide +kernel)
  have compiled := compileOnto_eq orders .standard "meta" (nestedListFilter 8) [.null]
  rw [emission] at compiled
  obtain ⟨asked, bound, counted⟩ := eight.2 _ _ compiled
  obtain ⟨anomaly, refusal⟩ := error_of_isOk
    ((nestedListFilter 9).compile orders .standard "meta" [Json.null].length) (by decide +kernel)
  have refused := compileOnto_eq orders .standard "meta" (nestedListFilter 9) [.null]
  rw [refusal] at refused
  refine ⟨⟨_, _, compiled, ?_⟩, by decide +kernel, by decide +kernel,
    (eight.1.mp ⟨_, _, compiled⟩).1, fun full => ?_⟩
  · rw [bound, List.length_append, counted]
    rfl
  · obtain ⟨fragment, bound, accepted⟩ := nine.1.mpr full
    rw [refused] at accepted
    cases accepted

end EntitySchema

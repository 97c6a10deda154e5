import EntitySchema.Filter.Predicate
import EntitySchema.Proofs.Entity.WellFormed
import EntitySchema.Proofs.Filter.Equality

/-!
# Negated modes

A mode that compares with `<>` asks of the leaves of a document what `equals` asks of them, the
other way round. That is so for nulls, numbers and texts. Booleans and lists are asked for as under
`equals`, so a negated filter that holds one of them is not the negation of the plain one.
-/

set_option autoImplicit false

namespace EntitySchema

open Sql

namespace Comparison

def opposite : Comparison → Comparison
  | .eq => .ne
  | .ne => .eq
  | .lt => .gte
  | .gte => .lt
  | .lte => .gt
  | .gt => .lte
  | .like => .notLike
  | .notLike => .like

end Comparison

namespace Test

def opposite? : Test → Option Test
  | .isNull negated => some (.isNull !negated)
  | .compare cast comparison value => some (.compare cast comparison.opposite value)
  | .between _ _ _ => none
  | .anyOf _ _ => none

def reversed : Test → Test
  | .isNull negated => .isNull !negated
  | .compare .boolean comparison value => .compare .boolean comparison value
  | .compare cast comparison value => .compare cast comparison.opposite value
  | other => other

theorem reversed_keeps : KeepsValues reversed := by
  intro test expr bound
  cases test with
  | compare cast comparison value => cases cast <;> rfl
  | _ => rfl

end Test

namespace Json

def isBoolOrList : Json → Bool
  | .bool _ | .array _ => true
  | _ => false

end Json

namespace Interpretation

theorem anyOf_reversed (cast : Cast) (convert : Conversion) (value : Json) :
    (anyOf cast convert value).map Test.reversed = anyOf cast convert value := by
  cases value with
  | array items =>
      cases items with
      | nil => rfl
      | cons first rest =>
          simp only [anyOf]
          cases (first :: rest).mapM convert <;> rfl
  | _ =>
      simp only [anyOf]
      cases convert _ <;> rfl

theorem leaf_reversed (mode : MatchMode) (negated : mode.comparator = .ne) (value : Json) :
    leaf mode value = (leaf .equals value).map Test.reversed := by
  cases value with
  | null =>
      simp only [leaf, null, MatchMode.nullTest?, negated]
      rfl
  | bool b => rfl
  | number n =>
      simp only [leaf, leafComparison, negated]
      rfl
  | string s =>
      simp only [leaf, leafTextMode, text, negated]
      rfl
  | array items =>
      simp only [leaf]
      split
      · exact (anyOf_reversed .numeric numberValue _).symm
      · exact (anyOf_reversed .plain textValue _).symm
  | object members => rfl

mutual
theorem node_reversed (mode : MatchMode) (negated : mode.comparator = .ne) (depth : Nat)
    (value : Json) :
    node mode depth value = (node .equals depth value).map (Node.mapTests Test.reversed) := by
  cases value with
  | object members =>
      cases members with
      | nil =>
          rw [node, node]
          split <;> rfl
      | cons member rest =>
          rw [node_members, node_members, nodes_reversed mode negated (depth + 1) (member :: rest)]
          split
          · rfl
          · cases nodes .equals (depth + 1) (member :: rest) <;> rfl
  | _ =>
      rw [node_scalar mode depth _ (by simp), node_scalar .equals depth _ (by simp),
        leaf_reversed mode negated]
      cases leaf .equals _ <;> rfl

theorem nodes_reversed (mode : MatchMode) (negated : mode.comparator = .ne) (depth : Nat)
    (members : List (String × Json)) :
    nodes mode depth members = (nodes .equals depth members).map (Node.mapMembers Test.reversed) := by
  cases members with
  | nil => rfl
  | cons member rest =>
      obtain ⟨key, value⟩ := member
      rw [nodes, nodes, node_reversed mode negated depth value, nodes_reversed mode negated depth rest]
      cases node .equals depth value with
      | error anomaly => rfl
      | ok first => cases nodes .equals depth rest <;> rfl
end

theorem document_reversed (mode : MatchMode) (negated : mode.comparator = .ne)
    (members : List (String × Json)) :
    document mode members = (document .equals members).map (Condition.mapTests Test.reversed) := by
  cases members with
  | nil => rfl
  | cons member rest =>
      simp only [document, nodes_reversed mode negated]
      cases nodes .equals 1 (member :: rest) <;> rfl

theorem elementNode_reversed (mode : MatchMode) (negated : mode.comparator = .ne) (value : Json) :
    elementNode mode value = (elementNode .equals value).map (Node.mapTests Test.reversed) := by
  cases value with
  | number n =>
      simp only [elementNode, negated]
      rfl
  | _ => exact node_reversed mode negated 1 _

theorem mapMembers_eq_map (f : Test → Test) (members : List (String × Node)) :
    Node.mapMembers f members = members.map fun member => (member.1, member.2.mapTests f) := by
  induction members with
  | nil => rfl
  | cons member rest ih => rw [Node.mapMembers, ih, List.map_cons]

theorem tuple_reversed (mode : MatchMode) (negated : mode.comparator = .ne) (names : List String)
    (values : List Json) :
    tuple mode names values = (tuple .equals names values).map (Node.mapMembers Test.reversed) := by
  have changed : Node.mapMembers Test.reversed =
      List.map fun member => (member.1, member.2.mapTests Test.reversed) :=
    funext (mapMembers_eq_map Test.reversed)
  rw [changed]
  apply mapM_map
  rintro ⟨name, value⟩
  simp only [elementNode_reversed mode negated value]
  cases elementNode .equals value <;> rfl

theorem elements_reversed (mode : MatchMode) (negated : mode.comparator = .ne)
    (subProps : Option (List String)) (value : Json) :
    elements mode subProps value =
      (elements .equals subProps value).map (Condition.mapTests Test.reversed) := by
  cases subProps with
  | none => rfl
  | some names =>
      by_cases given : names = []
      · subst given
        rfl
      · have ranged : ¬mode.comparator = .range := by simp [negated]
        have unranged : ¬MatchMode.equals.comparator = .range := by simp [MatchMode.comparator]
        rw [elements_some mode names value given, elements_some .equals names value given,
          if_neg ranged, if_neg unranged,
          mapM_map (tuple mode names) (tuple .equals names) _ (tuple_reversed mode negated names)]
        split
        · rfl
        · cases (chunks names.length (flatValues names.length value)).mapM (tuple .equals names) <;>
            rfl

end Interpretation

namespace MatchMode

theorem parse_name (mode : MatchMode) : parse? mode.name = some mode := by
  cases mode <;> rfl

end MatchMode

namespace Filter

open Interpretation

def equally (filter : Filter) : Filter :=
  { filter with matchMode := some MatchMode.equals.name }

def OfDocuments (filter : Filter) (p : Property) : Prop :=
  hasEnding jsonAggSuffix p.key = true ∨
    p.type.category = some .string ∧ ∃ members, filter.value = .object members

def leavesOn (filter : Filter) (p : Property) : List Json :=
  if hasEnding jsonAggSuffix p.key then
    (flatValues (filter.subProps.getD []).length filter.value).flatMap Json.leaves
  else filter.value.leaves

variable (modes : MatchModes) (p : Property) (filter : Filter)

theorem requestedMode_name (mode : MatchMode) (asked : filter.matchMode = some mode.name) :
    requestedMode filter = .ok (some mode) := by
  simp [requestedMode, asked, MatchMode.parse_name]

theorem modeFor_name (category : FilterCategory) (requested : Option MatchMode) (mode legal : MatchMode)
    (asked : filter.matchMode = some mode.name) (named : requestedMode filter = .ok requested)
    (allowed : modeFor modes category requested filter.value = .ok legal) : legal = mode := by
  rw [requestedMode_name filter mode asked] at named
  cases named
  simp only [modeFor] at allowed
  split at allowed <;> cases allowed
  rfl

theorem modeFor_equals (value : Json) :
    modeFor modes .string (some .equals) value = .ok .equals := by
  have legal : modes.allows .string .equals = true := by
    simp [MatchModes.allows, MatchMode.standard]
  simp [modeFor, legal]

theorem equally_list (ending : hasEnding jsonAggSuffix p.key = true) :
    onProperty modes p filter.equally = elements .equals filter.subProps filter.value := by
  rw [onProperty, requestedMode_name filter.equally .equals rfl]
  simp only [ending]
  exact congrArg (· >>= fun mode => elements mode filter.subProps filter.value)
    (modeFor_equals modes filter.value)

theorem equally_object (members : List (String × Json))
    (ending : hasEnding jsonAggSuffix p.key = false)
    (arrayEnding : hasEnding arrayAggSuffix p.key = false)
    (known : p.type.category = some .string) (object : filter.value = .object members) :
    onProperty modes p filter.equally = document .equals members :=
  onProperty_document modes p filter.equally (some .equals) .equals members
    (Bool.or_eq_false_iff.mpr ⟨ending, arrayEnding⟩) known object
    (requestedMode_name filter.equally .equals rfl) (modeFor_equals modes (.object members))

theorem holdsAny_object (members : List (String × Json)) (result : Condition) :
    holdsAny true (.object members) ≠ .ok result := by
  simp [holdsAny, isInteger]

theorem condition_negated (e : Entity) (field : String) (mode : MatchMode) (result : Condition)
    (found : e.property? field = some p) (documents : filter.OfDocuments p)
    (asked : filter.matchMode = some mode.name) (negated : mode.comparator = .ne)
    (accepted : condition e modes field filter = .ok result) :
    ∃ positive, condition e modes field filter.equally = .ok positive ∧
      result = positive.mapTests Test.reversed ∧
      List.Forall₂ Asked (filter.leavesOn p) positive.tests := by
  obtain ⟨q, found', readable, how⟩ := condition_accepted e modes field filter result accepted
  obtain rfl : p = q := Option.some.inj (found.symm.trans found')
  have onField : condition e modes field filter.equally = onProperty modes p filter.equally := by
    simp [condition, found, readable]
  rw [onField]
  cases how with
  | documents requested legal ending named allowed accepted =>
      obtain rfl := modeFor_name modes filter .string requested mode legal asked named allowed
      rw [elements_reversed legal negated, map_ok_iff] at accepted
      obtain ⟨positive, posAccepted, same⟩ := accepted
      refine ⟨positive, (equally_list modes p filter ending).trans posAccepted, same.symm, ?_⟩
      rw [leavesOn, if_pos ending]
      exact elements_asked filter.subProps filter.value positive posAccepted
  | integers ending arrayEnding accepted =>
      obtain listed | ⟨_, members, object⟩ := documents
      · simp [ending] at listed
      · exact absurd (object ▸ accepted) (holdsAny_object members result)
  | column requested category legal ending arrayEnding known named allowed accepted =>
      obtain listed | ⟨textual, members, object⟩ := documents
      · simp [ending] at listed
      · obtain rfl : category = .string := Option.some.inj (known.symm.trans textual)
        obtain rfl := modeFor_name modes filter .string requested mode legal asked named allowed
        rw [object] at accepted
        change document legal members = .ok result at accepted
        rw [document_reversed legal negated, map_ok_iff] at accepted
        obtain ⟨positive, posAccepted, same⟩ := accepted
        refine ⟨positive, (equally_object modes p filter members ending arrayEnding known
          object).trans posAccepted, same.symm, ?_⟩
        rw [leavesOn, if_neg (by simp [ending]), object]
        exact document_asked members positive posAccepted

end Filter

-- How a test stands to what a negated mode makes of it: a null, a number or a text is tested for the
-- opposite, a boolean or a list for the same.
def Turned (leaf : Json) (test : Test) : Prop :=
  if leaf.isBoolOrList then test.reversed = test else test.opposite? = some test.reversed

theorem asked_turned (leaf : Json) (test : Test) (asked : Asked leaf test) : Turned leaf test := by
  cases asked <;> simp [Turned, Json.isBoolOrList, Test.opposite?, Test.reversed, Comparison.opposite]

theorem negated_leaf_by_leaf (e : Entity) (modes : MatchModes) (field : String) (filter : Filter)
    (p : Property) (mode : MatchMode) (bound : Nat) (emitted : Emitted)
    (found : e.property? field = some p) (documents : filter.OfDocuments p)
    (asked : filter.matchMode = some mode.name) (negated : mode.comparator = .ne)
    (compiled : filter.compile e modes field bound = .ok emitted) :
    ∃ positive parts, filter.equally.compile e modes field bound = .ok positive ∧
      positive.sql = Parts.sql parts ∧
      emitted.sql = Parts.sql (Parts.mapTests Test.reversed parts) ∧
      emitted.values = positive.values ∧
      List.Forall₂ (fun leaf test => Asked leaf test ∧ Turned leaf test) (filter.leavesOn p)
        (Parts.tests parts) := by
  obtain ⟨result, accepted, same⟩ := (map_ok_iff _ _ _).mp compiled
  obtain ⟨positive, posAccepted, reversed, leaves⟩ :=
    filter.condition_negated modes p e field mode result found documents asked negated accepted
  subst same reversed
  refine ⟨positive.emit [.name field] bound, positive.parts [.name field] bound, ?_,
    (positive.sql_parts _ bound).symm, ?_,
    Condition.values_mapTests Test.reversed Test.reversed_keeps positive _ bound, ?_⟩
  · rw [Filter.compile, posAccepted]
    rfl
  · rw [← Condition.parts_mapTests Test.reversed Test.reversed_keeps, Condition.sql_parts]
  · rw [Condition.tests_parts]
    exact leaves.imp fun leaf test asked => ⟨asked, asked_turned leaf test asked⟩

def notMeta : Filter :=
  ⟨.object [("active", .bool true), ("gone", .null), ("note", .string "Ab"),
    ("size", .object [("w", .ofCount 2)])], some "notEquals", none, none⟩

theorem notMeta_leaf_by_leaf :
    ∃ p emitted positive parts, orders.property? "meta" = some p ∧ notMeta.OfDocuments p ∧
      notMeta.compile orders .standard "meta" 1 = .ok emitted ∧
      notMeta.equally.compile orders .standard "meta" 1 = .ok positive ∧
      emitted.sql.render =
        "(CAST(\"meta\"->>$2 AS BOOLEAN) = $3 AND \"meta\"->>$4 IS NOT NULL AND " ++
          "LOWER(\"meta\"->>$5) <> $6 AND CAST(\"meta\"->$7->>$8 AS NUMERIC) <> $9)" ∧
      emitted.sql = Parts.sql (Parts.mapTests Test.reversed parts) ∧
      List.Forall₂ (fun leaf test => Asked leaf test ∧ Turned leaf test) (notMeta.leavesOn p)
        (Parts.tests parts) := by
  obtain ⟨p, found⟩ := Option.isSome_iff_exists.mp
    (by decide +kernel : (orders.property? "meta").isSome = true)
  have textual : (orders.property? "meta").bind (·.type.category) = some .string := by
    decide +kernel
  have documents : notMeta.OfDocuments p :=
    .inr ⟨by rwa [found] at textual, _, rfl⟩
  have compiled := ok_getD (notMeta.compile orders .standard "meta" 1) ⟨[], []⟩ (by decide +kernel)
  obtain ⟨positive, parts, plain, _, reversed, _, leaves⟩ :=
    negated_leaf_by_leaf orders .standard "meta" notMeta p .notEquals 1 _ found documents rfl rfl
      compiled
  exact ⟨p, _, positive, parts, found, documents, compiled, plain, by decide +kernel, reversed,
    leaves⟩

def flaggedMeta (mode : String) : Filter :=
  ⟨.object [("active", .bool true), ("tags", .array [.string "x"])], some mode, none, none⟩

theorem flaggedMeta_not_negated :
    ∃ negative positive,
      (flaggedMeta "notEquals").compile orders .standard "meta" 0 = .ok negative ∧
      (flaggedMeta "equals").compile orders .standard "meta" 0 = .ok positive ∧
      negative.sql = positive.sql ∧
      negative.sql.render =
        "(CAST(\"meta\"->>$1 AS BOOLEAN) = $2 AND \"meta\"->>$3 = ANY($4))" := by
  have negative := ok_getD ((flaggedMeta "notEquals").compile orders .standard "meta" 0) ⟨[], []⟩
    (by decide +kernel)
  have positive := ok_getD ((flaggedMeta "equals").compile orders .standard "meta" 0) ⟨[], []⟩
    (by decide +kernel)
  exact ⟨_, _, negative, positive, by decide +kernel, by decide +kernel⟩

end EntitySchema

import EntitySchema.Proofs.Filter.Binding
import EntitySchema.Proofs.Filter.Predicate
import EntitySchema.Proofs.Sql.Renumbering

set_option autoImplicit false

namespace EntitySchema

open Sql Sql.Fragment

theorem shift_joined (k : Nat) (connective : String) (fragments : List Fragment) :
    shift k (joined connective fragments) = joined connective (fragments.map (shift k)) := by
  cases fragments with
  | nil => rfl
  | cons first rest =>
      cases rest with
      | nil => rfl
      | cons second others =>
          simp only [joined, List.map_cons, shift_parenthesized]
          rw [shift_join, List.map_cons, List.map_cons]

theorem shift_cast (k : Nat) (cast : Cast) (expr : Fragment) :
    shift k (cast.apply expr) = cast.apply (shift k expr) := by
  cases cast <;> simp [Cast.apply]

def Emitted.shift (k : Nat) (emitted : Emitted) : Emitted := ⟨emitted.sql.shift k, emitted.values⟩

theorem test_shift (k : Nat) (test : Test) (expr : Fragment) (bound : Nat) :
    test.emit (shift k expr) (bound + k) = (test.emit expr bound).shift k := by
  have next : bound + k + 1 = bound + 1 + k := by omega
  have second : bound + k + 2 = bound + 2 + k := by omega
  cases test <;> simp [Test.emit, Emitted.shift, shift_cast, next, second]

theorem values_shift (k : Nat) (parts : List Emitted) :
    (parts.map (Emitted.shift k)).flatMap Emitted.values = parts.flatMap Emitted.values := by
  rw [List.flatMap_map]
  rfl

theorem sql_shift (k : Nat) (parts : List Emitted) :
    (parts.map (Emitted.shift k)).map Emitted.sql = (parts.map Emitted.sql).map (shift k) := by
  rw [List.map_map, List.map_map]
  rfl

mutual
theorem node_shift (k : Nat) (node : Node) (base : Fragment) (bound : Nat) (key : String) :
    node.emit (shift k base) (bound + k) key = (node.emit base bound key).shift k := by
  have next : bound + k + 1 = bound + 1 + k := by omega
  cases node with
  | leaf test =>
      have inner := test_shift k test (base ++ [.text "->>", .place (bound + 1)]) (bound + 1)
      simp only [shift_append, shift_text_cons, shift_place_cons, shift_nil] at inner
      simp only [Node.emit, next, inner]
      rfl
  | object members =>
      have inner := members_shift k members (base ++ [.text "->", .place (bound + 1)]) (bound + 1)
      simp only [shift_append, shift_text_cons, shift_place_cons, shift_nil] at inner
      simp only [Node.emit, next, inner, sql_shift, values_shift, ← shift_joined]
      rfl

theorem members_shift (k : Nat) (members : List (String × Node)) (base : Fragment) (bound : Nat) :
    Node.emitMembers (shift k base) (bound + k) members =
      (Node.emitMembers base bound members).map (Emitted.shift k) := by
  cases members with
  | nil => rfl
  | cons member rest =>
      obtain ⟨key, node⟩ := member
      have here := node_shift k node base bound key
      have others := members_shift k rest base (bound + (node.emit base bound key).values.length)
      have behind : bound + k + (node.emit base bound key).values.length =
          bound + (node.emit base bound key).values.length + k := by omega
      simp only [Node.emitMembers, here, List.map_cons, ← others]
      rw [← behind]
      rfl
end

theorem tuples_shift (k : Nat) (tuples : List (List (String × Node))) (bound : Nat) :
    Condition.emitTuples (bound + k) tuples =
      (Condition.emitTuples bound tuples).map (Emitted.shift k) := by
  induction tuples generalizing bound with
  | nil => rfl
  | cons tuple rest ih =>
      have parts := members_shift k tuple [.text "p"] bound
      have element : shift k [.text "p"] = [.text "p"] := rfl
      rw [element] at parts
      have others := ih (bound + ((Node.emitMembers [.text "p"] bound tuple).flatMap
        Emitted.values).length)
      rw [Nat.add_right_comm] at others
      simp only [Condition.emitTuples, parts, values_shift, sql_shift, List.map_cons, others,
        Emitted.shift, shift_parenthesized, shift_join]

theorem condition_shift (k : Nat) (condition : Condition) (column : Fragment) (bound : Nat)
    (unplaced : shift k column = column) :
    condition.emit column (bound + k) = (condition.emit column bound).shift k := by
  cases condition with
  | column test =>
      have inner := test_shift k test column bound
      rw [unplaced] at inner
      exact inner
  | document members =>
      have parts := members_shift k members column bound
      rw [unplaced] at parts
      simp only [Condition.emit, parts, sql_shift, values_shift, ← shift_joined]
      rfl
  | someElement tuples =>
      simp only [Condition.emit, tuples_shift, values_shift, sql_shift, Emitted.shift, shift_append,
        shift_text_cons, shift_nil, shift_join, unplaced]
  | holdsAny values =>
      have holders : (values.mapIdx fun i _ =>
          ([.place (bound + k + i + 1), .text " = ANY("] ++ column ++ [.text ")"] : Fragment)) =
          (values.mapIdx fun i _ =>
            [.place (bound + i + 1), .text " = ANY("] ++ column ++ [.text ")"]).map (shift k) := by
        apply List.ext_getElem (by simp)
        intro i _ _
        have behind : bound + k + i + 1 = bound + i + 1 + k := by omega
        simp [unplaced, behind]
      simp only [Condition.emit, Emitted.shift, shift_joined, holders]
  | within minLng minLat maxLng maxLat =>
      simp [Condition.emit, Emitted.shift, unplaced, Nat.add_right_comm bound k]
  | near lng lat radius =>
      simp [Condition.emit, Emitted.shift, unplaced, Nat.add_right_comm bound k]

namespace Compiled

def shift (k : Nat) (c : Compiled) : Compiled := { c with fragments := c.fragments.map (Fragment.shift k) }

theorem shift_append (k : Nat) (a b : Compiled) : (a.append b).shift k = (a.shift k).append (b.shift k) := by
  simp [shift, append]

end Compiled

variable (e : Entity) (modes : MatchModes) (k : Nat)

theorem compile_shift (field : String) (filter : Filter) (bound : Nat) :
    filter.compile e modes field (bound + k) =
      (filter.compile e modes field bound).map (Emitted.shift k) := by
  unfold Filter.compile
  cases Interpretation.condition e modes field filter with
  | error anomaly => rfl
  | ok condition => exact congrArg Except.ok (condition_shift k condition [.name field] bound rfl)

namespace FilterInput

theorem compileFilter_shift (field : String) (bound : Nat) (filter : Filter) :
    compileFilter e modes field (bound + k) filter =
      (compileFilter e modes field bound filter).shift k := by
  unfold compileFilter
  rw [compile_shift]
  cases filter.compile e modes field bound <;> rfl

theorem compileFilters_shift (field : String) (bound : Nat) (filters : List Filter) :
    compileFilters e modes field (bound + k) filters =
      (compileFilters e modes field bound filters).shift k := by
  induction filters generalizing bound with
  | nil => rfl
  | cons filter rest ih =>
      have others := ih (bound + (compileFilter e modes field bound filter).values.length)
      rw [Nat.add_right_comm] at others
      simp only [compileFilters, Compiled.shift_append, compileFilter_shift, ← others]
      rfl

theorem shift_joinFragments (connective : Connective) (fragments : List Fragment) :
    (joinFragments connective fragments).map (shift k) =
      joinFragments connective (fragments.map (shift k)) := by
  cases fragments with
  | nil => rfl
  | cons first rest => exact congrArg (fun only => [only]) (shift_joined k connective.name _)

theorem compile_shift (field : String) (bound : Nat) (input : FilterInput) :
    compile e modes field (bound + k) input = (compile e modes field bound input).shift k := by
  cases input with
  | single filter => exact compileFilter_shift e modes k field bound filter
  | malformed raw reason => rfl
  | many filters =>
      cases filters with
      | nil => rfl
      | cons first rest =>
          simp only [compile, compileFilters_shift, Compiled.shift, shift_joinFragments]

end FilterInput

theorem filterMap_shift (filters : FilterMap) (bound : Nat) :
    filters.compile e modes (bound + k) = (filters.compile e modes bound).shift k := by
  induction filters generalizing bound with
  | nil => rfl
  | cons entry rest ih =>
      obtain ⟨field, input⟩ := entry
      have others := ih (bound + (input.compile e modes field bound).values.length)
      rw [Nat.add_right_comm] at others
      simp only [FilterMap.compile, Compiled.shift_append, FilterInput.compile_shift, ← others]
      rfl

theorem filterMap_append (first second : FilterMap) (bound : Nat) :
    FilterMap.compile e modes bound (first ++ second) =
      (first.compile e modes bound).append
        (second.compile e modes (bound + (first.compile e modes bound).values.length)) := by
  induction first generalizing bound with
  | nil => simp [FilterMap.compile, Compiled.append, Compiled.nothing]
  | cons entry rest ih =>
      obtain ⟨field, input⟩ := entry
      simp only [List.cons_append, FilterMap.compile, ih]
      simp [Compiled.append, Nat.add_assoc]

theorem split_by_keys {α : Type} (whole first second : List (String × α))
    (sorted : Members.Sorted whole) (firstSorted : Members.Sorted first)
    (secondSorted : Members.Sorted second) (apart : ∀ a ∈ first, ∀ b ∈ second, a.1 < b.1)
    (same : whole.Perm (first ++ second)) : whole = first ++ second := by
  have joinedSorted : Members.Sorted (first ++ second) :=
    List.pairwise_append.mpr ⟨firstSorted, secondSorted, apart⟩
  exact List.Perm.eq_of_pairwise (fun _ _ _ _ less greater => absurd greater (String.lt_asymm less))
    sorted joinedSorted same

-- Compiled onto arguments, a map gives what it gives by itself, its places moved up behind those of
-- the arguments; and a map that is split by its keys may be compiled part by part.
theorem compile_position (e : Entity) (built : e.Built) (modes : MatchModes) (filters : FilterMap)
    (args : List Json) :
    let alone := filters.compileOnto e modes []
    let run := filters.compileOnto e modes args
    run = (Pass.start args).add (filters.compile e modes args.length) ∧
      run.fragments.map Fragment.render =
        alone.fragments.map (fun fragment => renumbered args.length fragment.render) ∧
      run.dropped = alone.dropped ∧ run.args = args ++ alone.args ∧
      ∀ first second : FilterMap, Members.Sorted filters → Members.Sorted first →
        Members.Sorted second → (∀ a ∈ first, ∀ b ∈ second, a.1 < b.1) →
        filters.Perm (first ++ second) →
        let one := first.compileOnto e modes args
        let two := second.compileOnto e modes one.args
        run = ⟨one.fragments ++ two.fragments, one.dropped ++ two.dropped, two.args⟩ := by
  intro alone run
  have shifted := filterMap_shift e modes args.length filters 0
  rw [Nat.zero_add] at shifted
  have runs : run = (Pass.start args).add ((filters.compile e modes 0).shift args.length) := by
    rw [← shifted]
    exact filterMap_compileOnto_eq e modes filters args
  have alones : alone = (Pass.start []).add (filters.compile e modes 0) :=
    filterMap_compileOnto_eq e modes filters []
  have numbered := filterMap_numbered e (built_wellFormed e built) modes filters 0
  refine ⟨filterMap_compileOnto_eq e modes filters args, ?_, ?_, ?_, ?_⟩
  · rw [runs, alones]
    simp only [Pass.add, Pass.start, Compiled.shift, List.nil_append, List.map_map]
    apply List.map_congr_left
    intro fragment member
    exact (renumbered_render args.length fragment (numbered.readable fragment member)).symm
  · rw [runs, alones]
    rfl
  · rw [runs, alones]
    rfl
  · intro first second sorted firstSorted secondSorted apart same one two
    have whole := split_by_keys filters first second sorted firstSorted secondSorted apart same
    have ones : one = (Pass.start args).add (first.compile e modes args.length) :=
      filterMap_compileOnto_eq e modes first args
    have twos : two = (Pass.start one.args).add (second.compile e modes one.args.length) :=
      filterMap_compileOnto_eq e modes second one.args
    have both : run = (Pass.start args).add (FilterMap.compile e modes args.length (first ++ second)) := by
      rw [← whole]
      exact filterMap_compileOnto_eq e modes filters args
    rw [both, filterMap_append, twos, ones]
    simp [Pass.add, Pass.start, Compiled.append]

def ordersFilters : FilterMap :=
  [("cost $1", .many
      [⟨.array [.ofCount 1, .null], some "between", none, some .or⟩,
       ⟨.string "2", some "lt", none, none⟩]),
   ("itemsJsonAgg", .single ⟨.array [.string "red", .object []], none, some ["a", "b"], none⟩),
   ("meta", .single
      ⟨.object [("a", .object [("b", .bool true), ("c", .string "x\" $9")])], none, none, none⟩)]

def nineArguments : List Json := List.replicate 9 .null

theorem ordersFilters_position :
    orders.Built ∧ Members.Sorted ordersFilters ∧
      (ordersFilters.compileOnto orders .standard nineArguments).fragments.map Fragment.render =
        ["(\"cost $1\" >= $10 OR \"cost $1\" < $11)",
         "(CAST(\"meta\"->$12->>$13 AS BOOLEAN) = $14 AND LOWER(\"meta\"->$12->>$15) = $16)"] ∧
      (ordersFilters.compileOnto orders .standard nineArguments).fragments.map Fragment.render =
        (ordersFilters.compileOnto orders .standard []).fragments.map
          (fun fragment => renumbered 9 fragment.render) ∧
      ordersFilters.compileOnto orders .standard nineArguments =
        (let one := FilterMap.compileOnto orders .standard (ordersFilters.take 1) nineArguments
         let two := FilterMap.compileOnto orders .standard (ordersFilters.drop 1) one.args
         ⟨one.fragments ++ two.fragments, one.dropped ++ two.dropped, two.args⟩) := by
  have sorted : Members.Sorted ordersFilters := by
    unfold Members.Sorted ordersFilters
    decide +kernel
  have position := compile_position orders orders_built .standard ordersFilters nineArguments
  refine ⟨orders_built, sorted, by decide +kernel, position.2.1, ?_⟩
  exact position.2.2.2.2 (ordersFilters.take 1) (ordersFilters.drop 1) sorted
    (sorted.sublist (List.take_sublist 1 _)) (sorted.sublist (List.drop_sublist 1 _))
    (by unfold ordersFilters; decide +kernel)
    (by rw [List.take_append_drop])

end EntitySchema

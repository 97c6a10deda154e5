import EntitySchema.Proofs.Filter.Binding
import EntitySchema.Proofs.Filter.Predicate
import EntitySchema.Proofs.Json.Ordered
import EntitySchema.Proofs.Sql.Reference

set_option autoImplicit false

namespace EntitySchema

open Sql Sql.Fragment Interpretation

namespace Json

mutual
def paths : Json → List (List String × Json)
  | .object members => memberPaths members
  | value => [([], value)]

def memberPaths : List (String × Json) → List (List String × Json)
  | [] => []
  | (key, value) :: rest =>
    value.paths.map (fun (keys, leaf) => (key :: keys, leaf)) ++ memberPaths rest
end

theorem paths_scalar (value : Json) (scalar : ∀ members, value ≠ .object members) :
    value.paths = [([], value)] := by
  cases value with
  | object members => exact absurd rfl (scalar members)
  | _ => rfl

end Json

inductive Converts (mode : MatchMode) : Json → List Json → Prop where
  | null : Converts mode .null []
  | bool (b : Bool) : Converts mode (.bool b) [.bool b]
  | number (n : JsonNumber) : Converts mode (.number n) [.number n]
  | text (s : String) (single : mode.comparator ≠ .any)
      (whole : ∀ negated leading trailing, mode.comparator ≠ .like negated leading trailing) :
      Converts mode (.string s) [.string (LetterCase.lower s)]
  | pattern (s : String) (negated leading trailing : Bool)
      (alike : mode.comparator = .like negated leading trailing) :
      Converts mode (.string s)
        [.string (String.ofList (pattern leading trailing (LetterCase.lower s).toList))]
  | single (s : String) (among : mode.comparator = .any) :
      Converts mode (.string s) [.array [.string s]]
  | numbers (items : List Json) (given : items ≠ []) (numeric : ∀ item ∈ items, item.isNumber) :
      Converts mode (.array items) [.array items]
  | texts (items : List Json) (texts : List String)
      (mixed : ∃ item ∈ items, ¬item.isNumber) (read : items.map textOf? = texts.map some) :
      Converts mode (.array items) [.array (texts.map .string)]

theorem numbers_kept (items results : List Json) (numeric : ∀ item ∈ items, item.isNumber)
    (converted : items.mapM numberValue = .ok results) : results = items := by
  have steps := (mapM_ok_iff _ _ _).mp converted
  clear converted
  induction steps with
  | nil => rfl
  | @cons item result items results step _ ih =>
      have rest := ih fun other member => numeric other (List.mem_cons_of_mem _ member)
      have number := numeric item List.mem_cons_self
      cases item <;> simp [Json.isNumber] at number
      cases step
      rw [rest]

theorem texts_read (items results : List Json) (converted : items.mapM textValue = .ok results) :
    ∃ texts : List String, items.map textOf? = texts.map some ∧ results = texts.map .string := by
  have steps := (mapM_ok_iff _ _ _).mp converted
  clear converted
  induction steps with
  | nil => exact ⟨[], rfl, rfl⟩
  | @cons item result items results step _ ih =>
      obtain ⟨texts, read, same⟩ := ih
      simp only [textValue] at step
      cases known : textOf? item with
      | none => simp [known] at step
      | some s =>
          rw [known] at step
          cases step
          exact ⟨s :: texts, by simp [known, read], by simp [same]⟩

theorem list_converts (mode : MatchMode) (items : List Json) (test : Test)
    (accepted : leaf mode (.array items) = .ok test) :
    ∃ cast values, test = .anyOf cast values ∧ Converts mode (.array items) [.array values] := by
  cases items with
  | nil => cases accepted
  | cons item rest =>
      by_cases numeric : ∀ other ∈ item :: rest, other.isNumber
      · have all : (item :: rest).all Json.isNumber = true := List.all_eq_true.mpr numeric
        simp only [leaf, all, List.isEmpty_cons, Bool.not_false, Bool.and_self, if_true, anyOf,
          bind_ok_iff, pure_ok_iff] at accepted
        obtain ⟨values, converted, rfl⟩ := accepted
        obtain rfl := numbers_kept _ values numeric converted
        exact ⟨.numeric, _, rfl, .numbers _ (by simp) numeric⟩
      · have mixed : (item :: rest).all Json.isNumber = false :=
          Bool.eq_false_iff.mpr fun all => numeric (List.all_eq_true.mp all)
        simp only [leaf, mixed, Bool.and_false, Bool.false_eq_true, if_false, anyOf, bind_ok_iff,
          pure_ok_iff] at accepted
        obtain ⟨values, converted, rfl⟩ := accepted
        obtain ⟨texts, read, rfl⟩ := texts_read _ values converted
        push Not at numeric
        exact ⟨.plain, _, rfl, .texts _ texts numeric read⟩

def Test.bound (test : Test) : List Json := (test.emit [] 0).values

theorem test_values (test : Test) (expr : Fragment) (bound : Nat) :
    (test.emit expr bound).values = test.bound := by
  cases test <;> rfl

def Test.Single : Test → Prop
  | .between _ _ _ => False
  | _ => True

theorem leaf_converts (mode : MatchMode) (value : Json) (test : Test)
    (accepted : leaf mode value = .ok test) : Converts mode value test.bound ∧ test.Single := by
  cases value with
  | null =>
      simp only [leaf, null] at accepted
      split at accepted <;> cases accepted
      exact ⟨.null, trivial⟩
  | bool b =>
      cases accepted
      exact ⟨.bool b, trivial⟩
  | number n =>
      cases accepted
      exact ⟨.number n, trivial⟩
  | string s =>
      cases compared : mode.comparator with
      | any =>
          simp only [leaf, leafTextMode, compared, Interpretation.text, anyOf, textValue,
            textOf?] at accepted
          cases accepted
          exact ⟨.single s compared, trivial⟩
      | like negated leading trailing =>
          simp only [leaf, leafTextMode, compared, Interpretation.text, textOf?] at accepted
          cases accepted
          exact ⟨.pattern s negated leading trailing compared, trivial⟩
      | _ =>
          simp only [leaf, leafTextMode, compared, Interpretation.text, textOf?] at accepted
          cases accepted
          exact ⟨.text s (by simp [compared]) (by simp [compared]), trivial⟩
  | array items =>
      obtain ⟨cast, values, rfl, converts⟩ := list_converts mode items test accepted
      exact ⟨converts, trivial⟩
  | object members => cases accepted

namespace Cast

def opening : Cast → String
  | .plain => ""
  | .lower => "LOWER("
  | .numeric | .boolean => "CAST("

def closing : Cast → String
  | .plain => ""
  | .lower => ")"
  | .numeric => " AS NUMERIC)"
  | .boolean => " AS BOOLEAN)"

theorem tokens_apply (cast : Cast) (expr : Fragment) :
    (cast.apply expr).tokens =
      cast.opening.toList.map .char ++ (expr.tokens ++ cast.closing.toList.map .char) := by
  cases cast with
  | plain => exact (List.append_nil _).symm
  | _ => simp [apply, opening, closing, tokens_text_cons]

theorem closing_parted (cast : Cast) (more : List Token) :
    Parted (cast.closing.toList.map .char ++ .char ' ' :: more) := by
  cases cast with
  | plain => exact ⟨' ', more, rfl, by decide⟩
  | lower => exact ⟨')', .char ' ' :: more, rfl, by decide⟩
  | numeric => exact ⟨' ', "AS NUMERIC)".toList.map .char ++ .char ' ' :: more, rfl, by decide⟩
  | boolean => exact ⟨' ', "AS BOOLEAN)".toList.map .char ++ .char ' ' :: more, rfl, by decide⟩

end Cast

theorem test_reads (test : Test) (single : test.Single) (column : String)
    (steps : List (String × Nat)) (known : ∀ step ∈ steps, IsArrow step.1) (bound : Nat) :
    Reads (test.emit (path column steps) bound).sql
      [⟨column.toList, steps, List.range' (bound + 1) test.bound.length⟩] := by
  cases test with
  | isNull negated =>
      refine reads_around _ column steps [] ((nullText negated).toList.map .char) [] ?_ known ?_
        (fun rest => ahead_chars _ rest) (fun rest => references_chars _ rest)
      · simp [Test.emit, tokens_text_cons]
      · cases negated
        · exact ⟨' ', "IS NULL".toList.map .char, rfl, by decide⟩
        · exact ⟨' ', "IS NOT NULL".toList.map .char, rfl, by decide⟩
  | compare cast comparison value =>
      refine reads_around _ column steps cast.opening.toList
        (cast.closing.toList.map .char ++ .char ' ' ::
          ((comparison.symbol ++ " ").toList.map .char ++ [.place (bound + 1)])) [bound + 1] ?_ known
        (cast.closing_parted _) ?_ ?_
      · simp [Test.emit, Cast.tokens_apply, tokens_text_cons, tokens_place_cons]
      · intro rest
        simp only [List.append_assoc, List.cons_append, ahead_chars, ahead, List.nil_append]
      · intro rest
        simp only [List.append_assoc, List.cons_append, references_chars, references, List.nil_append]
  | between cast low high => exact single.elim
  | anyOf cast values =>
      refine reads_around _ column steps cast.opening.toList
        (cast.closing.toList.map .char ++ .char ' ' ::
          ("= ANY(".toList.map .char ++ [.place (bound + 1), .char ')'])) [bound + 1] ?_ known
        (cast.closing_parted _) ?_ ?_
      · simp [Test.emit, Cast.tokens_apply, tokens_text_cons, tokens_place_cons]
      · intro rest
        simp only [List.append_assoc, List.cons_append, ahead_chars, ahead, List.nil_append]
      · intro rest
        simp only [List.append_assoc, List.cons_append, references_chars, references, List.nil_append]

def argumentAt (args : List Json) : Nat → Option Json
  | 0 => none
  | index + 1 => args[index]?

def resolve (args : List Json) (step : String × Nat) : String × Option Json :=
  (step.1, argumentAt args step.2)

theorem argumentAt_next (args before after : List Json) (value : Json)
    (whole : args = before ++ value :: after) : argumentAt args (before.length + 1) = some value := by
  simp [argumentAt, whole]

theorem arguments_next (args before values after : List Json)
    (whole : args = before ++ (values ++ after)) :
    (List.range' (before.length + 1) values.length).map (argumentAt args) = values.map some := by
  induction values generalizing before with
  | nil => rfl
  | cons value values ih =>
      have rest := ih (before ++ [value]) (by simp [whole])
      rw [List.length_append, List.length_singleton] at rest
      rw [List.length_cons, List.range'_succ, List.map_cons, rest, List.map_cons,
        argumentAt_next args before (values ++ after) value whole]

def within (keys : List String) : List (String × Option Json) :=
  keys.map fun key => ("->", some (.string key))

def spelled : List String → List (String × Option Json)
  | [] => []
  | [last] => [("->>", some (.string last))]
  | key :: rest => ("->", some (.string key)) :: spelled rest

theorem spelled_append (keys : List String) (last : String) :
    spelled (keys ++ [last]) = within keys ++ [("->>", some (.string last))] := by
  induction keys with
  | nil => rfl
  | cons key rest ih =>
      have more : rest ++ [last] ≠ [] := by simp
      rw [List.cons_append, spelled, ih]
      · rfl
      · exact more

theorem within_arrows (args : List Json) (keys : List String) (steps : List (String × Nat))
    (leading : steps.map (resolve args) = within keys) : ∀ step ∈ steps, IsArrow step.1 := by
  intro step member
  have resolved : resolve args step ∈ within keys := leading ▸ List.mem_map_of_mem member
  obtain ⟨key, _, same⟩ := List.mem_map.mp resolved
  exact .inl (congrArg Prod.fst same).symm

structure Addresses (field : String) (mode : MatchMode) (args : List Json)
    (leaf : List String × Json) (r : Reference) : Prop where
  column : r.column = field.toList
  spells : r.steps.map (resolve args) = spelled leaf.1
  asks : ∃ values, Converts mode leaf.2 values ∧ r.values.map (argumentAt args) = values.map some

def under (keys : List String) (leaf : List String × Json) : List String × Json :=
  (keys ++ leaf.1, leaf.2)

theorem memberPaths_cons (keys : List String) (key : String) (value : Json)
    (rest : List (String × Json)) :
    (Json.memberPaths ((key, value) :: rest)).map (under keys) =
      value.paths.map (under (keys ++ [key])) ++ (Json.memberPaths rest).map (under keys) := by
  simp [Json.memberPaths, under, Function.comp_def]

variable (field : String) (mode : MatchMode) (args : List Json)

theorem leaf_addresses (value : Json) (test : Test) (accepted : leaf mode value = .ok test)
    (key : String) (keys : List String) (steps : List (String × Nat)) (before after : List Json)
    (whole : args = before ++ (.string key :: (test.bound ++ after)))
    (leading : steps.map (resolve args) = within keys) :
    ∃ found, Reads (test.emit (path field (steps ++ [("->>", before.length + 1)]))
        (before.length + 1)).sql [found] ∧
      Addresses field mode args (keys ++ [key], value) found := by
  obtain ⟨converts, single⟩ := leaf_converts mode value test accepted
  have known : ∀ step ∈ steps ++ [("->>", before.length + 1)], IsArrow step.1 := by
    intro step member
    rcases List.mem_append.mp member with earlier | last
    · exact within_arrows args keys steps leading step earlier
    · exact .inr (List.mem_singleton.mp last ▸ rfl)
  refine ⟨_, test_reads test single field _ known (before.length + 1), rfl, ?_, ?_⟩
  · rw [List.map_append, leading, spelled_append, List.map_singleton, resolve,
      argumentAt_next args before _ _ whole]
  · have next := arguments_next args (before ++ [.string key]) test.bound after (by simp [whole])
    exact ⟨test.bound, converts, by simpa using next⟩

mutual
-- By induction on the value: the arguments in front of a key are those that the keys above it and
-- the values before it have bound, and none that is bound later moves them.
theorem node_addresses (depth : Nat) (value : Json) (result : Node)
    (accepted : node mode depth value = .ok result) (key : String) (keys : List String)
    (steps : List (String × Nat)) (before after : List Json)
    (whole : args = before ++
      ((result.emit (path field steps) before.length key).values ++ after))
    (leading : steps.map (resolve args) = within keys) :
    ∃ found, Reads (result.emit (path field steps) before.length key).sql found ∧
      List.Forall₂ (Addresses field mode args) (value.paths.map (under (keys ++ [key]))) found := by
  by_cases object : ∃ members, value = .object members
  · obtain ⟨members, rfl⟩ := object
    obtain ⟨_, _, inner, innerAccepted, rfl⟩ := node_object mode depth members result accepted
    have resolved : argumentAt args (before.length + 1) = some (.string key) :=
      argumentAt_next args before _ _ whole
    have deeper : (steps ++ [("->", before.length + 1)]).map (resolve args) =
        within (keys ++ [key]) := by
      simp [leading, resolve, resolved, within]
    obtain ⟨found, reads, addresses⟩ := members_address (depth + 1) members inner innerAccepted
      (keys ++ [key]) (steps ++ [("->", before.length + 1)]) (before ++ [.string key]) after
      (before.length + 1) (by simp) (by simpa [Node.emit, path_append] using whole) deeper
    rw [path_append] at reads
    exact ⟨found.flatten, reads_joined "AND" _ found reads, addresses⟩
  · have scalar : ∀ members, value ≠ .object members := fun members same => object ⟨members, same⟩
    obtain ⟨test, testAccepted, rfl⟩ := node_leaf mode depth value result scalar accepted
    rw [Node.emit, ← path_append, test_values] at whole
    obtain ⟨found, reads, addresses⟩ := leaf_addresses field mode args value test testAccepted key
      keys steps before after whole leading
    rw [path_append] at reads
    refine ⟨[found], reads, ?_⟩
    rw [Json.paths_scalar value scalar]
    exact .cons (by simpa [under] using addresses) .nil

theorem members_address (depth : Nat) (members : List (String × Json))
    (results : List (String × Node)) (accepted : nodes mode depth members = .ok results)
    (keys : List String) (steps : List (String × Nat)) (before after : List Json) (bound : Nat)
    (reached : before.length = bound)
    (whole : args = before ++
      ((Node.emitMembers (path field steps) bound results).flatMap Emitted.values ++ after))
    (leading : steps.map (resolve args) = within keys) :
    ∃ found, List.Forall₂ Reads
        ((Node.emitMembers (path field steps) bound results).map Emitted.sql) found ∧
      List.Forall₂ (Addresses field mode args) ((Json.memberPaths members).map (under keys))
        found.flatten := by
  subst reached
  cases members with
  | nil =>
      cases accepted
      exact ⟨[], .nil, .nil⟩
  | cons member rest =>
      obtain ⟨key, value⟩ := member
      simp only [nodes, bind_ok_iff, pure_ok_iff] at accepted
      obtain ⟨first, firstAccepted, others, othersAccepted, rfl⟩ := accepted
      simp only [Node.emitMembers, List.flatMap_cons, List.append_assoc] at whole
      obtain ⟨here, reads, addresses⟩ := node_addresses depth value first firstAccepted key keys
        steps before _ whole leading
      obtain ⟨later, readsLater, addressesLater⟩ := members_address depth rest others othersAccepted
        keys steps (before ++ (first.emit (path field steps) before.length key).values) after _
        (List.length_append) (by rw [List.append_assoc]; exact whole) leading
      refine ⟨here :: later, .cons reads readsLater, ?_⟩
      rw [memberPaths_cons, List.flatten_cons]
      exact List.rel_append addresses addressesLater
end

theorem memberPaths_mem (members : List (String × Json)) (leaf : List String × Json)
    (listed : leaf ∈ Json.memberPaths members) :
    ∃ member ∈ members, ∃ keys, leaf.1 = member.1 :: keys := by
  induction members with
  | nil => cases listed
  | cons member rest ih =>
      obtain ⟨key, value⟩ := member
      rcases List.mem_append.mp listed with here | later
      · obtain ⟨inner, _, rfl⟩ := List.mem_map.mp here
        exact ⟨(key, value), List.mem_cons_self, inner.1, rfl⟩
      · obtain ⟨other, inRest, keys, same⟩ := ih later
        exact ⟨other, List.mem_cons_of_mem _ inRest, keys, same⟩

mutual
theorem paths_sorted (value : Json) (ordered : Json.Ordered value) :
    value.paths.Pairwise fun leaf other => leaf.1 < other.1 := by
  cases value with
  | object members => exact memberPaths_sorted members ordered.1 ordered.2
  | _ => exact List.pairwise_singleton _ _

theorem memberPaths_sorted (members : List (String × Json)) (sorted : Members.Sorted members)
    (ordered : Json.MembersOrdered members) :
    (Json.memberPaths members).Pairwise fun leaf other => leaf.1 < other.1 := by
  cases members with
  | nil => exact .nil
  | cons member rest =>
      obtain ⟨key, value⟩ := member
      obtain ⟨least, sortedRest⟩ := List.pairwise_cons.mp sorted
      refine List.pairwise_append.mpr ⟨?_, memberPaths_sorted rest sortedRest ordered.2, ?_⟩
      · refine List.pairwise_map.mpr ((paths_sorted value ordered.1).imp ?_)
        intro leaf other before
        exact List.cons_lt_cons_iff.mpr (.inr ⟨rfl, before⟩)
      · intro leaf here other later
        obtain ⟨inner, _, rfl⟩ := List.mem_map.mp here
        obtain ⟨next, inRest, keys, same⟩ := memberPaths_mem rest other later
        rw [same]
        exact List.cons_lt_cons_iff.mpr (.inl (least next inRest))
end

def Filter.TextMode (filter : Filter) (mode : MatchMode) : Prop :=
  match filter.matchMode with
  | none => mode = .equals
  | some name => MatchMode.parse? name = some mode

theorem textMode_of_modeFor (modes : MatchModes) (filter : Filter) (requested : Option MatchMode)
    (mode : MatchMode) (named : requestedMode filter = .ok requested)
    (legal : modeFor modes .string requested filter.value = .ok mode) : filter.TextMode mode := by
  unfold Filter.TextMode
  unfold requestedMode at named
  cases asked : filter.matchMode with
  | none =>
      rw [asked] at named
      cases named
      cases legal
      rfl
  | some name =>
      simp only [asked] at named
      cases parsed : MatchMode.parse? name with
      | none => simp [parsed] at named
      | some known =>
          simp only [parsed, Except.ok.injEq] at named
          subst named
          simp only [modeFor] at legal
          split at legal <;> cases legal
          exact parsed

theorem object_accepted (e : Entity) (modes : MatchModes) (field : String) (p : Property)
    (filter : Filter) (members : List (String × Json)) (result : Condition)
    (found : e.property? field = some p) (plain : hasEnding jsonAggSuffix field = false)
    (textual : p.type.category = some .string) (object : filter.value = .object members)
    (accepted : condition e modes field filter = .ok result) :
    ∃ mode inner, filter.TextMode mode ∧ nodes mode 1 members = .ok inner ∧
      result = .document inner := by
  obtain ⟨other, declared, _, how⟩ := condition_accepted e modes field filter result accepted
  obtain rfl : p = other := Option.some.inj (found.symm.trans declared)
  have key : p.key = field := (property_found e field p found).2
  cases how with
  | documents requested mode ending named legal accepted =>
      rw [key, plain] at ending
      cases ending
  | integers ending arrayEnding accepted =>
      rw [object] at accepted
      cases accepted
  | column requested category mode ending arrayEnding known named legal accepted =>
      obtain rfl : category = .string := Option.some.inj (known.symm.trans textual)
      rw [object] at accepted
      obtain ⟨inner, innerAccepted, same⟩ := document_accepted mode members result accepted
      exact ⟨mode, inner, textMode_of_modeFor modes filter requested mode named legal,
        innerAccepted, same⟩

-- An object is asked for leaf by leaf, each by a test at the end of the keys that lead to it.
theorem object_leaves_addressed (e : Entity) (built : e.Built) (modes : MatchModes)
    (field : String) (p : Property) (filter : Filter) (members : List (String × Json))
    (args bound : List Json) (fragment : Fragment) (found : e.property? field = some p)
    (plain : hasEnding jsonAggSuffix field = false) (textual : p.type.category = some .string)
    (object : filter.value = .object members)
    (compiled : filter.compileOnto e modes field args = (.ok fragment, bound)) :
    ∃ mode, filter.TextMode mode ∧
      List.Forall₂ (Addresses field mode bound) filter.value.paths
        (references (tokens fragment.render)) ∧
      (Json.Ordered filter.value →
        filter.value.paths.Pairwise fun leaf other => leaf.1 < other.1) := by
  rw [compileOnto_eq] at compiled
  cases emission : filter.compile e modes field args.length with
  | error anomaly => simp [emission] at compiled
  | ok emitted =>
      simp only [emission, Prod.mk.injEq, Except.ok.injEq] at compiled
      obtain ⟨rfl, rfl⟩ := compiled
      have readable := (compile_numbered e (built_wellFormed e built) modes field filter args.length
        emitted emission).readable
      obtain ⟨result, accepted, rfl⟩ := (map_ok_iff _ _ _).mp emission
      obtain ⟨mode, inner, named, innerAccepted, rfl⟩ :=
        object_accepted e modes field p filter members result found plain textual object accepted
      obtain ⟨made, reads, addresses⟩ := members_address field mode _ 1 members inner innerAccepted
        [] [] args [] args.length rfl (by rw [List.append_nil]) rfl
      have whole : (Json.memberPaths members).map (under []) = (Json.object members).paths :=
        List.map_id _
      have read := (reads_joined "AND" _ made reads [] rfl).2
      rw [List.append_nil, references, List.append_nil] at read
      refine ⟨mode, named, ?_, paths_sorted filter.value⟩
      rw [tokens_render _ readable, object, ← whole]
      exact read ▸ addresses

def nestedMeta : Filter :=
  ⟨.object [("a\"->>$1", .object [("b", .null), ("c", .string "X%")]), ("d", .array [.ofCount 2])],
    some "equals", none, none⟩

theorem nestedMeta_addressed :
    ∃ fragment bound p mode, orders.Built ∧ orders.property? "meta" = some p ∧
      nestedMeta.compileOnto orders .standard "meta" [.null] = (.ok fragment, bound) ∧
      fragment.render =
        "((\"meta\"->$2->>$3 IS NULL AND LOWER(\"meta\"->$2->>$4) = $5) AND " ++
          "CAST(\"meta\"->>$6 AS NUMERIC) = ANY($7))" ∧
      references (tokens fragment.render) =
        [⟨"meta".toList, [("->", 2), ("->>", 3)], []⟩,
         ⟨"meta".toList, [("->", 2), ("->>", 4)], [5]⟩,
         ⟨"meta".toList, [("->>", 6)], [7]⟩] ∧
      List.Forall₂ (Addresses "meta" mode bound) nestedMeta.value.paths
        (references (tokens fragment.render)) := by
  obtain ⟨p, found⟩ := Option.isSome_iff_exists.mp
    (by decide +kernel : (orders.property? "meta").isSome = true)
  have textual : (orders.property? "meta").bind (·.type.category) = some .string := by
    decide +kernel
  rw [found] at textual
  have emission := ok_getD (nestedMeta.compile orders .standard "meta" [Json.null].length) ⟨[], []⟩
    (by decide +kernel)
  have compiled := compileOnto_eq orders .standard "meta" nestedMeta [.null]
  rw [emission] at compiled
  obtain ⟨mode, _, addresses, _⟩ := object_leaves_addressed orders orders_built .standard "meta" p
    nestedMeta _ [.null] _ _ found (by decide +kernel) textual rfl compiled
  exact ⟨_, _, p, mode, orders_built, found, compiled, by decide +kernel, by decide +kernel,
    addresses⟩

end EntitySchema

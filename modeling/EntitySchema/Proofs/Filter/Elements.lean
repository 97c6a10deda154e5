import EntitySchema.Proofs.Filter.Equality
import EntitySchema.Proofs.Filter.Grouping
import EntitySchema.Proofs.Filter.Paths
import EntitySchema.Proofs.Sql.Element

set_option autoImplicit false

namespace EntitySchema

open Sql Sql.Fragment Interpretation

theorem cast_readsAs (cast : Cast) (expr named : Fragment) (same : ReadsAs expr named) :
    ReadsAs (cast.apply expr) (cast.apply named) := by
  cases cast with
  | plain => exact same
  | lower => exact .append_text ")" _ _ (by decide) (.text_cons "LOWER(" _ _ (by decide) same)
  | numeric =>
      exact .append_text " AS NUMERIC)" _ _ (by decide) (.text_cons "CAST(" _ _ (by decide) same)
  | boolean =>
      exact .append_text " AS BOOLEAN)" _ _ (by decide) (.text_cons "CAST(" _ _ (by decide) same)

structure Emitted.ReadsAs (a b : Emitted) : Prop where
  sql : Sql.ReadsAs a.sql b.sql
  values : a.values = b.values

theorem test_readsAs (test : Test) (expr named : Fragment) (bound : Nat)
    (same : ReadsAs expr named) : (test.emit expr bound).ReadsAs (test.emit named bound) := by
  refine ⟨?_, by rw [test_values, test_values]⟩
  cases test with
  | isNull negated => exact .append_text _ _ _ (by cases negated <;> decide) same
  | compare cast comparison value =>
      exact .append_place _ _ _ _ (by cases comparison <;> decide) (cast_readsAs cast _ _ same)
  | between cast low high =>
      have side := cast_readsAs cast _ _ same
      have lower := ReadsAs.append_place " >= " (bound + 1) _ _ (by decide) side
      have upper := ReadsAs.append_place " <= " (bound + 2) _ _ (by decide) side
      have both := ReadsAs.append _ _ _ _ lower (.text_cons " AND " _ _ (by decide) upper)
      simpa [Test.emit] using ReadsAs.parenthesized _ _ both
  | anyOf cast values =>
      have place := ReadsAs.append_place " = ANY(" (bound + 1) _ _ (by decide)
        (cast_readsAs cast _ _ same)
      simpa [Test.emit] using ReadsAs.append_text ")" _ _ (by decide) place

theorem parts_readAs (parts others : List Emitted) (same : List.Forall₂ Emitted.ReadsAs parts others) :
    List.Forall₂ ReadsAs (parts.map Emitted.sql) (others.map Emitted.sql) ∧
      parts.flatMap Emitted.values = others.flatMap Emitted.values := by
  induction same with
  | nil => exact ⟨.nil, rfl⟩
  | cons first _ ih =>
      exact ⟨.cons first.sql ih.1, by rw [List.flatMap_cons, List.flatMap_cons, first.values, ih.2]⟩

mutual
theorem node_readsAs (node : Node) (base named : Fragment) (leads : Leads base named) (bound : Nat)
    (key : String) : (node.emit base bound key).ReadsAs (node.emit named bound key) := by
  cases node with
  | leaf test =>
      have same := test_readsAs test _ _ (bound + 1) (leads "->>" (bound + 1) (.inr rfl))
      exact ⟨same.sql, congrArg (Json.string key :: ·) same.values⟩
  | object members =>
      have deeper := leads_on base named leads "->" (bound + 1) (.inl rfl)
      obtain ⟨same, values⟩ :=
        parts_readAs _ _ (members_readAs members _ _ deeper (bound + 1))
      exact ⟨.joined "AND" (by decide) _ _ same, congrArg (Json.string key :: ·) values⟩

theorem members_readAs (members : List (String × Node)) (base named : Fragment)
    (leads : Leads base named) (bound : Nat) :
    List.Forall₂ Emitted.ReadsAs (Node.emitMembers base bound members)
      (Node.emitMembers named bound members) := by
  cases members with
  | nil => exact .nil
  | cons member rest =>
      obtain ⟨key, node⟩ := member
      have here := node_readsAs node base named leads bound key
      have later := members_readAs rest base named leads
        (bound + (node.emit base bound key).values.length)
      rw [Node.emitMembers, Node.emitMembers, ← here.values]
      exact .cons here later
end

inductive AsksLeaves (mode : MatchMode) (args : List Json) (name : String) :
    Json → List Reference → Prop where
  | number (n : JsonNumber) (r : Reference) (column : r.column = "p".toList)
      (spells : r.steps.map (resolve args) = spelled [name])
      (asks : r.values.map (argumentAt args) = [some (.string n.text)]) :
      AsksLeaves mode args name (.number n) [r]
  | leaves (value : Json) (found : List Reference) (other : ∀ n, value ≠ .number n)
      (addresses : List.Forall₂ (Addresses "p" mode args) (value.paths.map (under [name])) found) :
      AsksLeaves mode args name value found

structure AsksElement (mode : MatchMode) (args : List Json) (name : String) (value : Json)
    (condition : String) : Prop where
  made : ∃ node bound, elementNode mode value = .ok node ∧
    condition = (node.emit [.text "p"] bound name).sql.render
  first : (indices condition).head?.bind (argumentAt args) = some (.string name)
  leaves : AsksLeaves mode args name value (elementReferences condition)

theorem spelled_lead (name : String) (keys : List String) :
    ∃ arrow more, spelled (name :: keys) = (arrow, some (.string name)) :: more := by
  cases keys with
  | nil => exact ⟨_, _, rfl⟩
  | cons key rest => exact ⟨_, _, rfl⟩

mutual
theorem node_paths_given (mode : MatchMode) (depth : Nat) (value : Json) (result : Node)
    (accepted : node mode depth value = .ok result) : value.paths ≠ [] := by
  cases value with
  | object members =>
      obtain ⟨_, given, inner, innerAccepted, _⟩ := node_object mode depth members result accepted
      exact nodes_paths_given mode (depth + 1) members inner innerAccepted given
  | _ => simp [Json.paths]

theorem nodes_paths_given (mode : MatchMode) (depth : Nat) (members : List (String × Json))
    (results : List (String × Node)) (accepted : nodes mode depth members = .ok results)
    (given : members ≠ []) : Json.memberPaths members ≠ [] := by
  cases members with
  | nil => exact absurd rfl given
  | cons member rest =>
      obtain ⟨key, value⟩ := member
      simp only [nodes, bind_ok_iff, pure_ok_iff] at accepted
      obtain ⟨first, firstAccepted, _⟩ := accepted
      have here := node_paths_given mode depth value first firstAccepted
      simp [Json.memberPaths, here]
end

variable (mode : MatchMode) (args : List Json)

theorem elementNode_reads (name : String) (value : Json) (result : Node)
    (accepted : elementNode mode value = .ok result) (before after : List Json)
    (whole : args = before ++ ((result.emit (path "p" []) before.length name).values ++ after)) :
    ∃ found, Reads (result.emit (path "p" []) before.length name).sql found ∧
      AsksLeaves mode args name value found ∧
      ∃ first others keys, found = first :: others ∧
        first.steps.map (resolve args) = spelled (name :: keys) := by
  by_cases number : ∃ n, value = .number n
  · obtain ⟨n, rfl⟩ := number
    obtain ⟨comparison, rfl⟩ : ∃ comparison,
        result = .leaf (.compare .plain comparison (.string n.text)) := by
      simp only [elementNode] at accepted
      split at accepted <;> cases accepted <;> exact ⟨_, rfl⟩
    have known : ∀ step ∈ [("->>", before.length + 1)], IsArrow step.1 := by simp [IsArrow]
    have reads := test_reads (.compare .plain comparison (.string n.text)) trivial "p" _ known
      (before.length + 1)
    have spells : [("->>", before.length + 1)].map (resolve args) = spelled [name] := by
      rw [List.map_singleton, resolve, argumentAt_next args before _ _ whole, spelled]
    have asks := arguments_next args (before ++ [.string name]) [.string n.text] after
      (by rw [whole]; simp [Node.emit, Test.emit])
    rw [List.length_append, List.length_singleton] at asks
    exact ⟨_, reads, .number n _ rfl spells asks, _, _, [], rfl, spells⟩
  · have other : ∀ n, value ≠ .number n := fun n same => number ⟨n, same⟩
    have plain : node mode 1 value = .ok result := by
      cases value with
      | number n => exact absurd rfl (other n)
      | _ => exact accepted
    obtain ⟨found, reads, addresses⟩ := node_addresses "p" mode args 1 value result plain name [] []
      before after whole rfl
    refine ⟨found, reads, .leaves value found other addresses, ?_⟩
    have given := node_paths_given mode 1 value result plain
    cases listed : value.paths with
    | nil => exact absurd listed given
    | cons leaf leaves =>
        rw [listed, List.map_cons] at addresses
        cases addresses with
        | cons here _ => exact ⟨_, _, leaf.1, rfl, here.spells⟩

theorem elementNode_asks (name : String) (value : Json) (result : Node)
    (accepted : elementNode mode value = .ok result) (before after : List Json)
    (whole : args = before ++ ((result.emit [.text "p"] before.length name).values ++ after))
    (readable : (result.emit [.text "p"] before.length name).sql.Readable) :
    AsksElement mode args name value (result.emit [.text "p"] before.length name).sql.render := by
  obtain ⟨same, values⟩ := node_readsAs result _ _ element_leads before.length name
  rw [values] at whole
  obtain ⟨found, reads, asks, first, others, keys, listed, spells⟩ :=
    elementNode_reads mode args name value result accepted before after whole
  obtain ⟨settled, made⟩ := reads [] rfl
  rw [List.append_nil] at settled made
  rw [references, List.append_nil] at made
  obtain ⟨arrow, more, lead⟩ := spelled_lead name keys
  have read := same.whole
  refine ⟨⟨result, _, accepted, rfl⟩, ?_, ?_⟩
  · obtain ⟨step, steps, drawn, resolved, _⟩ := List.map_eq_cons_iff.mp (spells.trans lead)
    have place := references_lead _ settled first others (made.trans listed) step steps drawn
    rw [Sql.indices, tokens_render _ readable, ← qualified_places, read, place]
    exact congrArg Prod.snd resolved
  · rw [elementReferences, tokens_render _ readable, read, made]
    exact asks

-- By induction on the pairs: in front of a condition stands what the conditions before it have bound.
theorem members_ask (pairs : List (String × Json)) (members : List (String × Node))
    (steps : List.Forall₂ (fun pair member => (elementNode mode pair.2).map (pair.1, ·) = .ok member)
      pairs members) (before after : List Json) (bound : Nat) (reached : before.length = bound)
    (whole : args = before ++
      ((Node.emitMembers [.text "p"] bound members).flatMap Emitted.values ++ after))
    (readable : ∀ part ∈ (Node.emitMembers [.text "p"] bound members).map Emitted.sql,
      part.Readable) :
    List.Forall₂ (fun pair part => AsksElement mode args pair.1 pair.2 part.render) pairs
      ((Node.emitMembers [.text "p"] bound members).map Emitted.sql) := by
  induction steps generalizing before bound with
  | nil => exact .nil
  | @cons pair member pairs members step _ ih =>
      subst reached
      obtain ⟨result, accepted, rfl⟩ := (map_ok_iff _ _ _).mp step
      simp only [Node.emitMembers, List.flatMap_cons, List.append_assoc] at whole
      rw [Node.emitMembers, List.map_cons] at readable ⊢
      obtain ⟨here, later⟩ := List.forall_mem_cons.mp readable
      refine .cons (elementNode_asks mode args pair.1 pair.2 result accepted before _ whole here) ?_
      exact ih _ _ List.length_append (by rw [whole, List.append_assoc]) later

theorem tuples_ask (names : List String) (blocks : List (List Json))
    (tuples : List (List (String × Node)))
    (steps : List.Forall₂ (fun block result => tuple mode names block = .ok result) blocks tuples)
    (before after : List Json) (bound : Nat) (reached : before.length = bound)
    (whole : args = before ++
      ((Condition.emitTuples bound tuples).flatMap Emitted.values ++ after)) :
    ∃ rows : List (List Fragment),
      (Condition.emitTuples bound tuples).map Emitted.sql =
        rows.map (fun row => parenthesized (join " AND " row)) ∧
      (∀ row ∈ rows, ∀ part ∈ row, part.Readable ∧ part.Grouped 0 0) ∧
      List.Forall₂ (fun block row =>
        List.Forall₂ (fun pair part => AsksElement mode args pair.1 pair.2 part.render)
          (names.zip block) row) blocks rows := by
  induction steps generalizing before bound with
  | nil => exact ⟨[], rfl, by simp, .nil⟩
  | @cons block members blocks tuples step _ ih =>
      have full := tuple_full mode names block members step
      have readable := (members_numbered members full [.text "p"] bound bound
        (element_numbered bound) (.inr rfl)).readable
      have closed := members_grouped members [.text "p"] bound (by decide)
      rw [Condition.emitTuples, List.flatMap_cons, List.append_assoc] at whole
      have asks := members_ask mode args _ _ ((mapM_ok_iff _ _ _).mp step) before _ bound reached whole
        readable
      obtain ⟨rows, emitted, parts, others⟩ :=
        ih (before ++ (Node.emitMembers [.text "p"] bound members).flatMap Emitted.values) _
          (by rw [List.length_append, reached]) (by rw [whole, List.append_assoc])
      refine ⟨_ :: rows, congrArg (_ :: ·) emitted, ?_, .cons asks others⟩
      exact List.forall_mem_cons.mpr
        ⟨fun part member => ⟨readable part member, closed part member⟩, parts⟩

theorem related_at {α β : Type} (R : α → β → Prop) (values : List α) (results : List β)
    (related : List.Forall₂ R values results) (i : Nat) (result : β)
    (found : results[i]? = some result) : ∃ value, values[i]? = some value ∧ R value result := by
  obtain ⟨below, rfl⟩ := List.getElem?_eq_some_iff.mp found
  have inside : i < values.length := related.length_eq ▸ below
  exact ⟨values[i], List.getElem?_eq_getElem inside, related.get inside below⟩

def disjunction (rows : List (List String)) : String :=
  " OR ".intercalate (rows.map fun row => "(" ++ " AND ".intercalate row ++ ")")

structure AsksRows (mode : MatchMode) (args : List Json) (names : List String) (flat : List Json)
    (rows : List (List String)) : Prop where
  count : rows.length = flat.length / names.length
  divides : Divides .or (disjunction rows)
    (rows.map fun row => "(" ++ " AND ".intercalate row ++ ")")
  row : ∀ (t : Nat) (row : List String), rows[t]? = some row →
    row.length = names.length ∧ Divides .and (" AND ".intercalate row) row
  asks : ∀ (t i : Nat) (row : List String) (condition : String), rows[t]? = some row →
    row[i]? = some condition →
      ∃ name value, names[i]? = some name ∧ flat[t * names.length + i]? = some value ∧
        AsksElement mode args name value condition

theorem disjunction_join (rows : List (List Fragment)) :
    (join " OR " (rows.map fun row => parenthesized (join " AND " row))).render =
      disjunction (rows.map fun row => row.map render) := by
  simp only [render_join, disjunction, List.map_map, Function.comp_def, render_parenthesized]

theorem disjunction_divides (rows : List (List Fragment)) (filled : rows ≠ [])
    (readable : ∀ row ∈ rows, ∀ part ∈ row, part.Readable)
    (closed : ∀ row ∈ rows, ∀ part ∈ row, part.Grouped 0 0) :
    Divides .or (disjunction (rows.map fun row => row.map render))
      (rows.map fun row => "(" ++ " AND ".intercalate (row.map render) ++ ")") := by
  have divides := join_divides .or (rows.map fun row => parenthesized (join " AND " row))
    (by simpa using filled) ?_ ?_
  · simp only [List.map_map, Function.comp_def, render_parenthesized, render_join] at divides
    simp only [disjunction, List.map_map, Function.comp_def]
    exact divides
  · intro part member
    obtain ⟨row, inRows, rfl⟩ := List.mem_map.mp member
    exact readable_parenthesized _ (readable_join " AND " (by decide) row (readable row inRows))
  · intro part member
    obtain ⟨row, inRows, rfl⟩ := List.mem_map.mp member
    exact parenthesized_grouped _ (join_grouped 1 " AND " (by decide) row fun part inRow =>
      grouped_within part (closed row inRows part inRow))

theorem someElement_render (tuples : List (List (String × Node))) (field : String) (bound : Nat) :
    ((Condition.someElement tuples).emit [.name field] bound).sql.render =
      "EXISTS (SELECT 1 FROM json_array_elements(\"" ++ field ++ "\"::json) AS p WHERE " ++
        (join " OR " ((Condition.emitTuples bound tuples).map Emitted.sql)).render ++ ")" := by
  apply String.toList_inj.mp
  simp [Condition.emit, render, Piece.render]

theorem row_asks (names : List String) (flat : List Json) (rows : List (List Fragment))
    (wide : 0 < names.length) (even : names.length ∣ flat.length)
    (asks : List.Forall₂ (fun block row =>
      List.Forall₂ (fun pair part => AsksElement mode args pair.1 pair.2 part.render)
        (names.zip block) row) (chunks names.length flat) rows)
    (t : Nat) (row : List Fragment) (found : rows[t]? = some row) :
    row.length = names.length ∧ ∀ (i : Nat) (part : Fragment), row[i]? = some part →
      ∃ name value, names[i]? = some name ∧ flat[t * names.length + i]? = some value ∧
        AsksElement mode args name value part.render := by
  obtain ⟨block, taken, asked⟩ := related_at _ _ _ asks t row found
  obtain ⟨size, items⟩ := chunks_block names.length flat block wide even t taken
  constructor
  · rw [← asked.length_eq, List.length_zip, size, Nat.min_self]
  · intro i part inRow
    obtain ⟨⟨name, value⟩, paired, asksPart⟩ := related_at _ _ _ asked i part inRow
    obtain ⟨named, valued⟩ := List.getElem?_zip_eq_some.mp paired
    have narrow : i < names.length := (List.getElem?_eq_some_iff.mp named).1
    exact ⟨name, value, named, items i narrow ▸ valued, asksPart⟩

theorem someElement_rows (names : List String) (flat : List Json)
    (tuples : List (List (String × Node))) (given : names ≠ []) (filled : flat ≠ [])
    (even : names.length ∣ flat.length)
    (steps : (chunks names.length flat).mapM (tuple mode names) = .ok tuples) (before : List Json)
    (whole : args = before ++ (Condition.emitTuples before.length tuples).flatMap Emitted.values) :
    ∃ rows : List (List String), AsksRows mode args names flat rows ∧
      (join " OR " ((Condition.emitTuples before.length tuples).map Emitted.sql)).render =
        disjunction rows := by
  have wide : 0 < names.length := List.length_pos_of_ne_nil given
  obtain ⟨rows, written, parts, asks⟩ := tuples_ask mode args names _ tuples
    ((mapM_ok_iff _ _ _).mp steps) before [] before.length rfl (by rw [List.append_nil]; exact whole)
  have count : rows.length = flat.length / names.length := by
    rw [← asks.length_eq, chunks_length names.length flat wide even]
  have several : rows ≠ [] := by
    rintro rfl
    have none : flat.length / names.length = 0 := count.symm
    have total := Nat.div_mul_cancel even
    rw [none, Nat.zero_mul] at total
    exact filled (List.length_eq_zero_iff.mp total.symm)
  have readable := fun row inRows part inRow => (parts row inRows part inRow).1
  have closed := fun row inRows part inRow => (parts row inRows part inRow).2
  have asked := row_asks mode args names flat rows wide even asks
  refine ⟨rows.map fun row => row.map render, ⟨?_, ?_, ?_, ?_⟩, ?_⟩
  · rw [List.length_map, count]
  · rw [List.map_map]
    exact disjunction_divides rows several readable closed
  · intro t texts found
    rw [List.getElem?_map, Option.map_eq_some_iff] at found
    obtain ⟨row, here, rfl⟩ := found
    have width := (asked t row here).1
    have inRows := List.mem_of_getElem? here
    have divides := join_divides .and row (List.ne_nil_of_length_pos (by omega))
      (readable row inRows) (closed row inRows)
    rw [render_join] at divides
    exact ⟨by rw [List.length_map, width], divides⟩
  · intro t i texts condition found among
    rw [List.getElem?_map, Option.map_eq_some_iff] at found
    obtain ⟨row, here, rfl⟩ := found
    rw [List.getElem?_map, Option.map_eq_some_iff] at among
    obtain ⟨part, inRow, rfl⟩ := among
    exact (asked t row here).2 i part inRow
  · rw [written, disjunction_join]

theorem list_accepted (e : Entity) (modes : MatchModes) (field : String) (filter : Filter)
    (result : Condition) (ending : hasEnding jsonAggSuffix field = true)
    (accepted : condition e modes field filter = .ok result) :
    ∃ mode names tuples, filter.TextMode mode ∧ filter.subProps = some names ∧ names ≠ [] ∧
      flatValues names.length filter.value ≠ [] ∧
      names.length ∣ (flatValues names.length filter.value).length ∧
      (chunks names.length (flatValues names.length filter.value)).mapM (tuple mode names) =
        .ok tuples ∧
      result = .someElement tuples := by
  obtain ⟨p, found, _, how⟩ := condition_accepted e modes field filter result accepted
  have key : p.key = field := (property_found e field p found).2
  cases how with
  | documents requested mode _ named legal accepted =>
      obtain ⟨names, tuples, listed, given, _, filled, even, steps, same⟩ :=
        elements_accepted mode filter.subProps filter.value result accepted
      exact ⟨mode, names, tuples, textMode_of_modeFor modes filter requested mode named legal, listed,
        given, filled, Nat.dvd_of_mod_eq_zero even, steps, same⟩
  | integers other _ _ =>
      rw [key, ending] at other
      cases other
  | column _ _ _ other _ _ _ _ _ =>
      rw [key, ending] at other
      cases other

-- A filter on a list of documents has a value for each of its names, or so many times over, and is
-- refused otherwise. Every value is asked for once: a tuple for each round, and in it a condition
-- for each name, in the order in which names and values were given.
theorem elements_paired (e : Entity) (modes : MatchModes) (field : String)
    (ending : hasEnding jsonAggSuffix field = true) (filter : Filter) (args : List Json) :
    let names := filter.subProps.getD []
    let flat := flatValues names.length filter.value
    (names = [] ∨ flat = [] ∨ ¬names.length ∣ flat.length →
      ∃ anomaly, filter.compileOnto e modes field args = (.error anomaly, args)) ∧
    ∀ fragment bound, filter.compileOnto e modes field args = (.ok fragment, bound) →
      ∃ mode rows, filter.TextMode mode ∧ 0 < flat.length ∧ names.length ∣ flat.length ∧
        fragment.render = "EXISTS (SELECT 1 FROM json_array_elements(\"" ++ field ++
          "\"::json) AS p WHERE " ++ disjunction rows ++ ")" ∧
        AsksRows mode bound names flat rows := by
  intro names flat
  rw [compileOnto_eq]
  cases emission : filter.compile e modes field args.length with
  | error anomaly => exact ⟨fun _ => ⟨anomaly, rfl⟩, by simp⟩
  | ok emitted =>
      obtain ⟨result, accepted, rfl⟩ := (map_ok_iff _ _ _).mp emission
      obtain ⟨mode, listed, tuples, named, known, given, filled, even, steps, rfl⟩ :=
        list_accepted e modes field filter result ending accepted
      obtain rfl : names = listed := by simp only [names, known, Option.getD_some]
      refine ⟨fun unfit => ?_, ?_⟩
      · rcases unfit with empty | empty | uneven
        · exact absurd empty given
        · exact absurd empty filled
        · exact absurd even uneven
      · intro fragment bound compiled
        simp only [Prod.mk.injEq, Except.ok.injEq] at compiled
        obtain ⟨rfl, rfl⟩ := compiled
        obtain ⟨rows, asks, written⟩ := someElement_rows mode _ names flat tuples given filled even
          steps args rfl
        refine ⟨mode, rows, named, List.length_pos_of_ne_nil filled, even, ?_, asks⟩
        rw [someElement_render, written]

def itemsFilter : Filter :=
  ⟨.array [.object [("max", .null), ("min", .string "S")], .ofCount 1, .string "Blue", .ofCount 2],
    none, some ["size", "count"], none⟩

def oddFilter : Filter := ⟨.array [.ofCount 1, .ofCount 2, .ofCount 3], none, some ["size", "count"], none⟩

theorem itemsFilter_paired :
    hasEnding jsonAggSuffix "itemsJsonAgg" = true ∧
      (∃ anomaly,
        oddFilter.compileOnto orders .standard "itemsJsonAgg" [.null] = (.error anomaly, [.null])) ∧
      ∃ fragment bound mode rows,
        itemsFilter.compileOnto orders .standard "itemsJsonAgg" [.null] = (.ok fragment, bound) ∧
        fragment.render =
          "EXISTS (SELECT 1 FROM json_array_elements(\"itemsJsonAgg\"::json) AS p WHERE " ++
            "((p->$2->>$3 IS NULL AND LOWER(p->$2->>$4) = $5) AND p->>$6 = $7) OR " ++
            "(LOWER(p->>$8) = $9 AND p->>$10 = $11))" ∧
        AsksRows mode bound ["size", "count"] (flatValues 2 itemsFilter.value) rows := by
  have ending : hasEnding jsonAggSuffix "itemsJsonAgg" = true := by decide +kernel
  obtain ⟨refused, _⟩ :=
    elements_paired orders .standard "itemsJsonAgg" ending oddFilter [.null]
  have emission := ok_getD
    (itemsFilter.compile orders .standard "itemsJsonAgg" [Json.null].length) ⟨[], []⟩
    (by decide +kernel)
  have compiled := compileOnto_eq orders .standard "itemsJsonAgg" itemsFilter [.null]
  rw [emission] at compiled
  obtain ⟨mode, rows, _, _, _, _, asks⟩ :=
    (elements_paired orders .standard "itemsJsonAgg" ending itemsFilter [.null]).2 _ _ compiled
  exact ⟨ending, refused (.inr (.inr (by decide))), _, _, mode, rows, compiled, by decide +kernel,
    asks⟩

end EntitySchema

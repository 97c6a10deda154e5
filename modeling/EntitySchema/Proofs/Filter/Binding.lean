import EntitySchema.Filter.Binding
import EntitySchema.Proofs.Filter.Acceptance

/-!
# One pass and two stages

Binding values while a filter is read comes to the same as reading it first and emitting it then. A
refused filter has bound only what stands behind the arguments it found, so cutting these back to
their number undoes all of it.
-/

set_option autoImplicit false

namespace EntitySchema

open Interpretation Sql.Fragment

namespace Binding
variable {α β γ δ : Type}

theorem onto_bind (program : Binding α) (next : α → Binding β) (args : List Json) :
    (program >>= next).onto args =
      match program.onto args with
      | (.ok result, bound) => (next result).onto bound
      | (.error anomaly, bound) => (.error anomaly, bound) := by
  change (ExceptT.bindCont next (program.onto args).1).run (program.onto args).2 = _
  rcases program.onto args with ⟨result | anomaly, bound⟩ <;> rfl

-- A program follows a reading of the filter: where the reading is accepted, the program has its
-- result and binds its values behind the arguments; where it is refused, so is the program. It may
-- have bound values by then, but leaves what it found.
inductive Follows (program : Binding α) (args : List Json) (view : γ → α × List Json) :
    Except FilterAnomaly γ → Prop where
  | accepted (reading : γ)
      (ran : program.onto args = (.ok (view reading).1, args ++ (view reading).2)) :
      Follows program args view (.ok reading)
  | refused (anomaly : FilterAnomaly) (left : List Json)
      (ran : program.onto args = (.error anomaly, args ++ left)) :
      Follows program args view (.error anomaly)

def pair (emitted : Emitted) : Sql.Fragment × List Json := (emitted.sql, emitted.values)

theorem follows_throw (anomaly : FilterAnomaly) (args : List Json) (view : γ → α × List Json) :
    Follows (throw anomaly) args view (.error anomaly) :=
  .refused anomaly [] (by rw [List.append_nil]; rfl)

theorem follows_bound (value : Json) (anomaly : FilterAnomaly) (args : List Json)
    (view : γ → α × List Json) :
    Follows (do let _ ← place value; throw anomaly) args view (.error anomaly) :=
  .refused anomaly [value] rfl

theorem follows_written (outcome : Except FilterAnomaly γ) (emit : γ → Nat → Emitted)
    (args : List Json) :
    Follows (do let reading ← check outcome; write (emit reading)) args
      (fun reading => pair (emit reading args.length)) outcome := by
  cases outcome with
  | ok reading => exact .accepted reading rfl
  | error anomaly => exact follows_throw anomaly args _

theorem follows_check (outcome : Except FilterAnomaly δ) (next : δ → Binding α) (args : List Json)
    (view : γ → α × List Json) (later : δ → Except FilterAnomaly γ)
    (rest : ∀ checked, outcome = .ok checked → Follows (next checked) args view (later checked)) :
    Follows (check outcome >>= next) args view (outcome >>= later) := by
  cases outcome with
  | ok checked => exact rest checked rfl
  | error anomaly => exact follows_throw anomaly args view

theorem follows_place (value : Json) (next : Sql.Piece → Binding α) (args : List Json)
    (view : γ → α × List Json) (outcome : Except FilterAnomaly γ)
    (rest : Follows (next (.place (args.length + 1))) (args ++ [value]) view outcome) :
    Follows (place value >>= next) args (fun reading => ((view reading).1, value :: (view reading).2))
      outcome := by
  have counted : (args ++ [value]).length = args.length + 1 := by simp
  have continued : (place value >>= next).onto args =
      (next (.place (args.length + 1))).onto (args ++ [value]) := by
    rw [← counted]
    rfl
  cases rest with
  | accepted reading ran =>
      exact .accepted reading (by rw [continued, ran, List.append_assoc]; rfl)
  | refused anomaly left ran =>
      exact .refused anomaly (value :: left) (by rw [continued, ran, List.append_assoc]; rfl)

theorem follows_map (program : Binding α) (f : α → β) (args : List Json)
    (view : γ → α × List Json) (outcome : Except FilterAnomaly γ)
    (first : Follows program args view outcome) :
    Follows (do return f (← program)) args (fun reading => (f (view reading).1, (view reading).2))
      outcome := by
  cases first with
  | accepted reading ran => exact .accepted reading (by rw [onto_bind, ran]; rfl)
  | refused anomaly left ran => exact .refused anomaly left (by rw [onto_bind, ran])

theorem follows_reading (program : Binding α) (args : List Json) (build : γ → δ)
    (view : γ → α × List Json) (whole : δ → α × List Json) (outcome : Except FilterAnomaly γ)
    (same : ∀ reading, whole (build reading) = view reading)
    (first : Follows program args view outcome) :
    Follows program args whole (outcome.map build) := by
  cases first with
  | accepted reading ran => exact .accepted (build reading) (by rw [ran, same])
  | refused anomaly left ran => exact .refused anomaly left ran

theorem follows_cons (first : Binding α) (rest : Binding (List α)) (args : List Json)
    (build : γ → List δ → List δ) (view : γ → α × List Json) (more : γ → List δ → List α × List Json)
    (whole : List δ → List α × List Json) (outcome : Except FilterAnomaly γ)
    (others : Except FilterAnomaly (List δ))
    (emitted : ∀ reading readings, whole (build reading readings) =
      ((view reading).1 :: (more reading readings).1, (view reading).2 ++ (more reading readings).2))
    (here : Follows first args view outcome)
    (later : ∀ reading, Follows rest (args ++ (view reading).2) (more reading) others) :
    Follows (do let result ← first; return result :: (← rest)) args whole
      (do let reading ← outcome; return build reading (← others)) := by
  cases here with
  | refused anomaly left ran => exact .refused anomaly left (by rw [onto_bind, ran])
  | accepted reading ran =>
      cases later reading with
      | accepted readings moreRan =>
          refine .accepted (build reading readings) ?_
          rw [onto_bind, ran]
          simp only
          rw [onto_bind, moreRan, emitted, ← List.append_assoc]
          rfl
      | refused anomaly left moreRan =>
          refine .refused anomaly ((view reading).2 ++ left) ?_
          rw [onto_bind, ran]
          simp only
          rw [onto_bind, moreRan, List.append_assoc]

def row (parts : List Emitted) : List Sql.Fragment × List Json :=
  (parts.map Emitted.sql, boundValues parts)

theorem member_scalar (mode : MatchMode) (depth : Nat) (base : Sql.Fragment) (key : String)
    (value : Json) (args : List Json) (scalar : ∀ inner, value ≠ .object inner) :
    Follows (member mode depth base key value) args (fun n => pair (n.emit base args.length key))
      (node mode depth value) := by
  have read : node mode depth value = (leaf mode value).map .leaf := by
    cases value with
    | object inner => exact absurd rfl (scalar inner)
    | _ => rw [node] <;> simp
  have written : member mode depth base key value = (do
      let place ← place (.string key)
      let test ← check (leaf mode value)
      write (test.emit (base ++ [.text "->>", place]))) := by
    cases value with
    | object inner => exact absurd rfl (scalar inner)
    | _ => rw [member] <;> simp
  rw [read, written]
  have tested := follows_written (leaf mode value)
    (fun test bound => test.emit (base ++ [.text "->>", .place (args.length + 1)]) bound)
    (args ++ [.string key])
  refine follows_reading _ args Node.leaf _ _ _ ?_ (follows_place (.string key) _ args _ _ tested)
  intro test
  simp [pair, Node.emit]

mutual
theorem member_follows (mode : MatchMode) (depth : Nat) (base : Sql.Fragment) (key : String)
    (value : Json) (args : List Json) :
    Follows (member mode depth base key value) args (fun n => pair (n.emit base args.length key))
      (node mode depth value) := by
  cases value with
  | object inner =>
      cases inner with
      | nil =>
          rw [member, node]
          by_cases deep : maxObjectDepth ≤ depth
          · simpa only [if_pos deep] using follows_bound _ _ _ _
          · simpa only [if_neg deep] using follows_bound _ _ _ _
      | cons first rest =>
          have parts := members_follow mode (depth + 1)
            (base ++ [.text "->", .place (args.length + 1)]) (first :: rest) (args ++ [.string key])
          rw [member, node]
          · by_cases deep : maxObjectDepth ≤ depth
            · simpa only [if_pos deep] using follows_bound _ _ _ _
            · simp only [if_neg deep]
              have conjunction := follows_map _ (joined "AND") _ _ _ parts
              refine follows_reading _ args Node.object _ _ _ ?_
                (follows_place (.string key) _ args _ _ conjunction)
              intro results
              simp [pair, row, Node.emit, boundValues]
          · simp
          · simp
  | _ => exact member_scalar mode depth base key _ args (by simp)

theorem members_follow (mode : MatchMode) (depth : Nat) (base : Sql.Fragment)
    (inner : List (String × Json)) (args : List Json) :
    Follows (members mode depth base inner) args
      (fun results => row (Node.emitMembers base args.length results)) (nodes mode depth inner) := by
  cases inner with
  | nil => exact .accepted [] (by rw [members]; simp [row, Node.emitMembers, boundValues]; rfl)
  | cons first rest =>
      obtain ⟨key, value⟩ := first
      have here := member_follows mode depth base key value args
      rw [members, nodes]
      refine follows_cons _ _ _ (fun n others => (key, n) :: others) _
        (fun n others =>
          row (Node.emitMembers base (args.length + (n.emit base args.length key).values.length) others))
        _ _ _ ?_ here ?_
      · intro n others
        rfl
      · intro n
        have others := members_follow mode depth base rest
          (args ++ (n.emit base args.length key).values)
        rw [List.length_append] at others
        exact others
end

theorem document_follows (mode : MatchMode) (column : Sql.Fragment) (inner : List (String × Json))
    (args : List Json) :
    Follows (Binding.document mode column inner) args
      (fun condition => pair (condition.emit column args.length))
      (Interpretation.document mode inner) := by
  cases inner with
  | nil => exact follows_throw _ _ _
  | cons first rest =>
      have parts := members_follow mode 1 column (first :: rest) args
      exact follows_reading _ args Condition.document _ _ _ (fun _ => rfl)
        (follows_map _ (joined "AND") _ _ _ parts)

theorem element_follows (mode : MatchMode) (name : String) (value : Json) (args : List Json) :
    Follows (element mode name value) args (fun n => pair (n.emit [.text "p"] args.length name))
      (elementNode mode value) := by
  cases value with
  | number n =>
      have compared : ∀ comparison : Comparison, Follows
          (place (.string name) >>= fun key =>
            write ((Test.compare .plain comparison (.string n.text)).emit [.text "p", .text "->>", key]))
          args (fun n : Node => pair (n.emit [.text "p"] args.length name))
          (.ok (Node.leaf (.compare .plain comparison (.string n.text)))) := by
        intro comparison
        have written := follows_place (.string name) (fun key =>
            write ((Test.compare .plain comparison (.string n.text)).emit [.text "p", .text "->>", key]))
          args (fun test : Test => pair (test.emit [.text "p", .text "->>", .place (args.length + 1)]
            (args ++ [Json.string name]).length))
          (.ok (.compare .plain comparison (.string n.text))) (.accepted _ rfl)
        refine follows_reading _ args Node.leaf _ _ _ ?_ written
        intro test
        simp [pair, Node.emit]
      rw [element, elementNode]
      cases mode.comparator with
      | eq => exact compared .eq
      | ne => exact compared .ne
      | _ => exact follows_bound _ _ _ _
  | _ => exact member_follows mode 1 [.text "p"] name _ args

theorem tuple_follows (mode : MatchMode) (values : List (String × Json)) (args : List Json) :
    Follows (tuple mode values) args
      (fun results => row (Node.emitMembers [.text "p"] args.length results))
      (values.mapM fun (name, value) => (elementNode mode value).map (name, ·)) := by
  induction values generalizing args with
  | nil => exact .accepted [] (by simp [tuple, row, Node.emitMembers, boundValues]; rfl)
  | cons first rest ih =>
      obtain ⟨name, value⟩ := first
      have here := follows_reading _ args (fun n => (name, n)) _
        (fun member : String × Node => pair (member.2.emit [.text "p"] args.length member.1)) _ (fun _ => rfl)
        (element_follows mode name value args)
      rw [tuple, List.mapM_cons]
      refine follows_cons _ _ _ (fun member others => member :: others) _
        (fun (member : String × Node) others => row (Node.emitMembers [.text "p"]
          (args.length + (member.2.emit [.text "p"] args.length member.1).values.length) others))
        _ _ _ ?_ here ?_
      · intro member others
        rfl
      · intro member
        have others := ih (args ++ (member.2.emit [.text "p"] args.length member.1).values)
        rw [List.length_append] at others
        exact others

theorem tuples_follow (mode : MatchMode) (names : List String) (rows : List (List Json))
    (args : List Json) :
    Follows (tuples mode names rows) args
      (fun results => row (Condition.emitTuples args.length results))
      (rows.mapM (Interpretation.tuple mode names)) := by
  induction rows generalizing args with
  | nil => exact .accepted [] (by simp [tuples, row, Condition.emitTuples, boundValues]; rfl)
  | cons values rest ih =>
      have here := follows_map _ (fun parts => parenthesized (join " AND " parts)) _ _ _
        (tuple_follows mode (names.zip values) args)
      rw [tuples, List.mapM_cons]
      refine follows_cons _ _ _ (fun tuple others => tuple :: others) _
        (fun tuple others => row (Condition.emitTuples
          (args.length + (boundValues (Node.emitMembers [.text "p"] args.length tuple)).length) others))
        _ _ _ ?_ here ?_
      · intro tuple others
        rfl
      · intro tuple
        have others := ih (args ++ boundValues (Node.emitMembers [.text "p"] args.length tuple))
        rw [List.length_append] at others
        exact others

theorem elements_given (mode : MatchMode) (column : Sql.Fragment) (names : List String)
    (value : Json) (given : names ≠ []) :
    Binding.elements mode column (some names) value =
      if mode.comparator = .range then throw (.unsupportedMode mode)
      else if (flatValues names.length value).isEmpty ∨
          (flatValues names.length value).length % names.length ≠ 0 then
        throw (.badValue .perSubProp)
      else do
        let parts ← tuples mode names (chunks names.length (flatValues names.length value))
        return .text "EXISTS (SELECT 1 FROM json_array_elements(" :: column ++
          .text "::json) AS p WHERE " :: join " OR " parts ++ [.text ")"] := by
  have present : names.isEmpty = false := List.isEmpty_eq_false_iff.mpr given
  unfold Binding.elements
  simp only [Option.getD_some, present, Bool.false_eq_true, if_false]
  cases value <;> rfl

theorem elements_follow (mode : MatchMode) (column : Sql.Fragment) (subProps : Option (List String))
    (value : Json) (args : List Json) :
    Follows (Binding.elements mode column subProps value) args
      (fun condition => pair (condition.emit column args.length))
      (Interpretation.elements mode subProps value) := by
  cases subProps with
  | none => exact follows_throw _ _ _
  | some names =>
      by_cases given : names = []
      · subst given
        exact follows_throw _ _ _
      · rw [elements_some mode names value given, elements_given mode column names value given]
        by_cases ranged : mode.comparator = .range
        · simpa only [if_pos ranged] using follows_throw _ _ _
        · simp only [if_neg ranged]
          split
          · exact follows_throw _ _ _
          · have all := tuples_follow mode names
              (chunks names.length (flatValues names.length value)) args
            exact follows_reading _ args Condition.someElement _ _ _ (fun _ => rfl)
              (follows_map _ (fun parts =>
                .text "EXISTS (SELECT 1 FROM json_array_elements(" :: column ++
                  .text "::json) AS p WHERE " :: join " OR " parts ++ [.text ")"]) args _ _ all)

theorem settled_follows (column : Sql.Fragment) (outcome : Except FilterAnomaly Condition)
    (args : List Json) :
    Follows (settled column outcome) args (fun condition => pair (condition.emit column args.length))
      outcome :=
  follows_written outcome (fun condition bound => condition.emit column bound) args

theorem ofCategory_follows (column : Sql.Fragment) (category : FilterCategory) (mode : MatchMode)
    (value : Json) (args : List Json) :
    Follows (Binding.ofCategory column category mode value) args
      (fun condition => pair (condition.emit column args.length))
      (Interpretation.ofCategory category mode value) := by
  cases category with
  | string =>
      cases value with
      | object inner => exact document_follows mode column inner args
      | _ => exact settled_follows column _ args
  | _ => exact settled_follows column _ args

theorem onProperty_follows (modes : MatchModes) (p : Property) (column : Sql.Fragment)
    (filter : Filter) (args : List Json) :
    Follows (Binding.onProperty modes p column filter) args
      (fun condition => pair (condition.emit column args.length))
      (Interpretation.onProperty modes p filter) := by
  refine follows_check _ _ _ _ _ fun requested _ => ?_
  by_cases ending : hasEnding jsonAggSuffix p.key = true
  · simp only [if_pos ending]
    exact follows_check _ _ _ _ _ fun mode _ => elements_follow mode column _ _ args
  · simp only [if_neg ending]
    by_cases arrayEnding : hasEnding arrayAggSuffix p.key = true
    · simp only [if_pos arrayEnding]
      exact follows_check _ _ _ _ _ fun _ _ => settled_follows column _ args
    · simp only [if_neg arrayEnding]
      cases p.type.category with
      | none => exact follows_throw _ _ _
      | some category =>
          refine follows_check _ _ _ _ _ fun mode _ => ?_
          cases filter.value with
          | null => exact settled_follows column _ args
          | _ => exact ofCategory_follows column category mode _ args

theorem condition_follows (e : Entity) (modes : MatchModes) (field : String) (filter : Filter)
    (args : List Json) :
    Follows (Binding.condition e modes field filter) args
      (fun condition => pair (condition.emit [.name field] args.length))
      (Interpretation.condition e modes field filter) := by
  unfold Binding.condition Interpretation.condition
  cases e.property? field with
  | none => exact follows_throw _ _ _
  | some p =>
      by_cases readable : p.appliesTo .select = true
      · simpa only [if_pos readable] using onProperty_follows modes p [.name field] filter args
      · simpa only [if_neg readable] using follows_throw _ _ _

end Binding

theorem compileOnto_eq (e : Entity) (modes : MatchModes) (field : String) (filter : Filter)
    (args : List Json) :
    filter.compileOnto e modes field args =
      match filter.compile e modes field args.length with
      | .ok emitted => (.ok emitted.sql, args ++ emitted.values)
      | .error anomaly => (.error anomaly, args) := by
  have follows := Binding.condition_follows e modes field filter args
  unfold Filter.compileOnto Filter.compile
  generalize Interpretation.condition e modes field filter = outcome at follows ⊢
  cases follows with
  | accepted condition ran =>
      rw [ran]
      rfl
  | refused anomaly left ran =>
      rw [ran]
      simp only [Except.map, List.take_left]

namespace Pass

variable (e : Entity) (modes : MatchModes)

def add (pass : Pass) (c : Compiled) : Pass :=
  ⟨pass.fragments ++ c.fragments, pass.dropped ++ c.dropped, pass.args ++ c.values⟩

theorem add_append (pass : Pass) (a b : Compiled) : pass.add (a.append b) = (pass.add a).add b := by
  simp [add, Compiled.append]

theorem add_nothing (pass : Pass) : pass.add .nothing = pass := by
  simp [add, Compiled.nothing]

theorem add_skip (pass : Pass) (field : String) (anomaly : FilterAnomaly) :
    pass.add (.skip field anomaly) = pass.skip field anomaly := by
  simp [add, Compiled.skip, skip]

theorem one_eq (field : String) (pass : Pass) (filter : Filter) :
    pass.one e modes field filter =
      pass.add (FilterInput.compileFilter e modes field pass.args.length filter) := by
  unfold one FilterInput.compileFilter
  rw [compileOnto_eq]
  cases filter.compile e modes field pass.args.length with
  | ok emitted => simp [add, Compiled.one]
  | error anomaly => exact (add_skip pass field anomaly).symm

theorem foldl_one (field : String) (filters : List Filter) (pass : Pass) :
    filters.foldl (Pass.one e modes field) pass =
      pass.add (FilterInput.compileFilters e modes field pass.args.length filters) := by
  induction filters generalizing pass with
  | nil => exact (add_nothing pass).symm
  | cons filter rest ih =>
      rw [List.foldl_cons, ih, one_eq, FilterInput.compileFilters, add_append]
      simp [add]

theorem entry_eq (pass : Pass) (field : String) (input : FilterInput) :
    pass.entry e modes (field, input) =
      pass.add (input.compile e modes field pass.args.length) := by
  cases input with
  | single filter => exact one_eq e modes field pass filter
  | malformed raw reason => exact (add_skip pass field _).symm
  | many filters =>
      cases filters with
      | nil => exact (add_skip pass field _).symm
      | cons first rest =>
          simp only [entry, foldl_one]
          simp [add, FilterInput.compile]

theorem foldl_entry (filters : FilterMap) (pass : Pass) :
    filters.foldl (Pass.entry e modes) pass =
      pass.add (filters.compile e modes pass.args.length) := by
  induction filters generalizing pass with
  | nil => exact (add_nothing pass).symm
  | cons entry rest ih =>
      obtain ⟨field, input⟩ := entry
      rw [List.foldl_cons, ih, entry_eq, FilterMap.compile, add_append]
      simp [add]

end Pass

theorem filterMap_compileOnto_eq (e : Entity) (modes : MatchModes) (filters : FilterMap)
    (args : List Json) :
    filters.compileOnto e modes args = (Pass.start args).add (filters.compile e modes args.length) :=
  Pass.foldl_entry e modes filters (.start args)

end EntitySchema

import EntitySchema.Proofs.Filter.Position
import EntitySchema.Proofs.Sql.Grouping

set_option autoImplicit false

namespace EntitySchema

open Sql Sql.Fragment

theorem grouped_within (fragment : Fragment) (closed : fragment.Grouped 0 0) :
    fragment.Grouped 1 1 :=
  grouped_inside fragment 0 0 0 closed

theorem joined_grouped (connective : Connective) (fragments : List Fragment)
    (closed : ∀ fragment ∈ fragments, fragment.Grouped 0 0) :
    (joined connective.name fragments).Grouped 0 0 := by
  have inside := parenthesized_grouped _
    (join_grouped 1 (" " ++ connective.name ++ " ") (by cases connective <;> decide) fragments
      fun fragment member => grouped_within fragment (closed fragment member))
  cases fragments with
  | nil => exact inside
  | cons first rest =>
      cases rest with
      | nil => exact closed first (by simp)
      | cons second others => exact inside

theorem cast_grouped (cast : Cast) (expr : Fragment) (closed : expr.Grouped 0 0) :
    (cast.apply expr).Grouped 0 0 := by
  have inside := grouped_within expr closed
  cases cast with
  | plain => exact closed
  | lower => exact enclosed_grouped "LOWER(" ")" expr (by decide) inside (by decide)
  | numeric => exact enclosed_grouped "CAST(" " AS NUMERIC)" expr (by decide) inside (by decide)
  | boolean => exact enclosed_grouped "CAST(" " AS BOOLEAN)" expr (by decide) inside (by decide)

theorem grouped_append_place (first middle last : Nat) (fragment : Fragment) (s : String)
    (index : Nat) (grouped : fragment.Grouped first middle) (text : Grouped middle last [.text s]) :
    Grouped first last (fragment ++ [.text s, .place index]) :=
  grouped_append first middle last _ _ grouped
    (grouped_cons middle last last _ _ text (place_grouped last index))

theorem test_grouped (test : Test) (expr : Fragment) (bound : Nat) (closed : expr.Grouped 0 0) :
    (test.emit expr bound).sql.Grouped 0 0 := by
  cases test with
  | isNull negated =>
      exact grouped_append 0 0 0 expr _ closed (by cases negated <;> decide)
  | compare cast comparison value =>
      exact grouped_append_place 0 0 0 _ _ _ (cast_grouped cast expr closed) (by cases comparison <;> decide)
  | between cast low high =>
      have inside := grouped_within _ (cast_grouped cast expr closed)
      have lower := grouped_append_place 1 1 1 _ " >= " (bound + 1) inside (by decide)
      have upper := grouped_append_place 1 1 1 _ " <= " (bound + 2) inside (by decide)
      have both := grouped_append 1 1 1 _ _ lower
        (grouped_cons 1 1 1 (.text " AND ") _ (by decide) upper)
      simpa [Test.emit] using parenthesized_grouped _ both
  | anyOf cast values =>
      have list : Grouped 0 0 [.text " = ANY(", .place (bound + 1), .text ")"] :=
        enclosed_grouped " = ANY(" ")" [.place (bound + 1)] (by decide) (place_grouped 1 _) (by decide)
      exact grouped_append 0 0 0 _ _ (cast_grouped cast expr closed) list

mutual
theorem node_grouped (node : Node) (base : Fragment) (bound : Nat) (key : String)
    (closed : base.Grouped 0 0) : (node.emit base bound key).sql.Grouped 0 0 := by
  cases node with
  | leaf test =>
      exact test_grouped test _ _ (grouped_append_place 0 0 0 base "->>" (bound + 1) closed (by decide))
  | object members =>
      have path := grouped_append_place 0 0 0 base "->" (bound + 1) closed (by decide)
      exact joined_grouped .and _ (members_grouped members _ (bound + 1) path)

theorem members_grouped (members : List (String × Node)) (base : Fragment) (bound : Nat)
    (closed : base.Grouped 0 0) :
    ∀ fragment ∈ (Node.emitMembers base bound members).map Emitted.sql, fragment.Grouped 0 0 := by
  cases members with
  | nil => simp [Node.emitMembers]
  | cons member rest =>
      obtain ⟨key, node⟩ := member
      intro fragment among
      rcases List.mem_cons.mp among with here | later
      · exact here ▸ node_grouped node base bound key closed
      · exact members_grouped rest base _ closed fragment later
end

theorem tuples_grouped (tuples : List (List (String × Node))) (bound : Nat) :
    ∀ fragment ∈ (Condition.emitTuples bound tuples).map Emitted.sql, fragment.Grouped 0 0 := by
  induction tuples generalizing bound with
  | nil => simp [Condition.emitTuples]
  | cons tuple rest ih =>
      have parts := members_grouped tuple [.text "p"] bound (by decide)
      have here := parenthesized_grouped _ (join_grouped 1 " AND " (by decide) _
        fun fragment member => grouped_within fragment (parts fragment member))
      intro fragment among
      rcases List.mem_cons.mp among with same | later
      · exact same ▸ here
      · exact ih _ fragment later

theorem condition_grouped (condition : Condition) (column : Fragment) (bound : Nat)
    (closed : column.Grouped 0 0) : (condition.emit column bound).sql.Grouped 0 0 := by
  have inside := grouped_within column closed
  cases condition with
  | column test => exact test_grouped test column bound closed
  | document members =>
      exact joined_grouped .and _ (members_grouped members column bound closed)
  | someElement tuples =>
      have parts := tuples_grouped tuples bound
      have disjunction := join_grouped 1 " OR " (by decide) _
        fun fragment member => grouped_within fragment (parts fragment member)
      have deeper := grouped_inside column 0 0 1 closed
      have source := grouped_cons 0 2 2 (.text "EXISTS (SELECT 1 FROM json_array_elements(") _
        (by decide) deeper
      have condition := grouped_cons 2 1 1 (.text "::json) AS p WHERE ") _ (by decide) disjunction
      exact grouped_append 0 1 0 _ _ (grouped_append 0 2 1 _ _ source condition) (by decide)
  | holdsAny values =>
      apply joined_grouped .or
      intro fragment among
      obtain ⟨i, _, same⟩ := List.mem_mapIdx.mp among
      subst same
      have place := grouped_cons 0 0 1 _ [.text " = ANY("] (place_grouped 0 (bound + i + 1)) (by decide)
      exact grouped_append 0 1 0 _ _ (grouped_append 0 1 1 _ _ place inside) (by decide)
  | within minLng minLat maxLng maxLat =>
      have west := grouped_append_place 0 0 2 [] "ST_Contains(ST_MakeEnvelope(" (bound + 1)
        (nil_grouped 0) (by decide)
      have south := grouped_append_place 0 2 2 _ ", " (bound + 2) west (by decide)
      have east := grouped_append_place 0 2 2 _ ", " (bound + 3) south (by decide)
      have north := grouped_append_place 0 2 2 _ ", " (bound + 4) east (by decide)
      have envelope := grouped_append 0 2 1 _ [.text (", " ++ srid ++ "), ")] north (by decide)
      exact grouped_append 0 1 0 _ _ (grouped_append 0 1 1 _ _ envelope inside) (by decide)
  | near lng lat radius =>
      have source := grouped_cons 0 1 1 (.text "ST_DWithin(") _ (by decide) inside
      have east := grouped_append_place 0 1 3 _ ", ST_SetSRID(ST_MakePoint(" (bound + 1) source
        (by decide)
      have north := grouped_append_place 0 3 3 _ ", " (bound + 2) east (by decide)
      have distance := grouped_append_place 0 3 1 _ ("), " ++ srid ++ ")::geography, ") (bound + 3)
        north (by decide)
      have all := grouped_append 0 1 0 _ [.text ")"] distance (by decide)
      simpa [Condition.emit] using all

theorem compile_grouped (e : Entity) (modes : MatchModes) (field : String) (filter : Filter)
    (bound : Nat) (emitted : Emitted)
    (compiled : filter.compile e modes field bound = .ok emitted) : emitted.sql.Grouped 0 0 := by
  obtain ⟨condition, _, same⟩ := (map_ok_iff _ _ _).mp compiled
  subst same
  exact condition_grouped condition [.name field] bound (name_grouped 0 field)

theorem filterMap_grouped (e : Entity) (modes : MatchModes) (filters : FilterMap) (bound : Nat) :
    ∀ fragment ∈ (filters.compile e modes bound).fragments, fragment.Grouped 0 0 :=
  filterMap_fragments e modes (Grouped 0 0) (compile_grouped e modes) joined_grouped filters bound

theorem joined_split (connective : Connective) (first second : Fragment) (others : List Fragment)
    (closed : ∀ part ∈ first :: second :: others, part.Grouped 0 0)
    (readable : ∀ part ∈ first :: second :: others, part.Readable) :
    ∃ inside, (joined connective.name (first :: second :: others)).render = "(" ++ inside ++ ")" ∧
      split inside = (first.render, (second :: others).map fun part => (connective, part.render)) :=
  ⟨_, render_parenthesized _, split_join connective first (second :: others) closed readable⟩

theorem filterMap_list (e : Entity) (modes : MatchModes) (before after : FilterMap) (field : String)
    (head : Filter) (tail : List Filter) (bound : Nat) :
    let earlier := FilterMap.compile e modes bound before
    let list := FilterInput.compileFilters e modes field (bound + earlier.values.length) (head :: tail)
    let later := FilterMap.compile e modes
      (bound + earlier.values.length + list.values.length) after
    (FilterMap.compile e modes bound (before ++ (field, .many (head :: tail)) :: after)).fragments =
      earlier.fragments ++
        (FilterInput.joinFragments (head.connective.getD .and) list.fragments ++ later.fragments) := by
  intro earlier list later
  rw [filterMap_append]
  rfl

-- Fragments are closed, so that a predicate is divided where they were joined, and a list of
-- conditions for one field where these were, whatever the keys of the entity hold.
theorem predicate_grouping (e : Entity) (built : e.Built) (modes : MatchModes) (filters : FilterMap)
    (args : List Json) :
    let compiled := filters.compile e modes args.length
    (∀ fragment ∈ compiled.fragments, Balanced fragment.render ∧ Undivided fragment.render) ∧
      (∀ (connective : Connective) (first : Fragment) (rest : List Fragment),
        compiled.fragments = first :: rest →
          ∃ predicate, compiled.predicate? connective = some predicate ∧
            split predicate.render =
              (first.render, rest.map fun part => (connective, part.render))) ∧
      ∀ (before after : FilterMap) (field : String) (head : Filter) (tail : List Filter),
        filters = before ++ (field, .many (head :: tail)) :: after →
          let earlier := FilterMap.compile e modes args.length before
          let list := FilterInput.compileFilters e modes field
            (args.length + earlier.values.length) (head :: tail)
          ∀ (first second : Fragment) (others : List Fragment),
            list.fragments = first :: second :: others →
              ∃ fragment later inside,
                compiled.fragments = earlier.fragments ++ fragment :: later ∧
                  fragment.render = "(" ++ inside ++ ")" ∧
                  split inside = (first.render, (second :: others).map fun part =>
                    (head.connective.getD .and, part.render)) := by
  intro compiled
  have wellFormed := built_wellFormed e built
  have closed := filterMap_grouped e modes filters args.length
  have readable := (filterMap_numbered e wellFormed modes filters args.length).readable
  refine ⟨?_, ?_, ?_⟩
  · intro fragment member
    exact ⟨grouped_balanced fragment (closed fragment member) (readable fragment member),
      grouped_undivided fragment (closed fragment member) (readable fragment member)⟩
  · intro connective first rest shape
    have predicate : compiled.predicate? connective =
        some (join (" " ++ connective.name ++ " ") (first :: rest)) := by
      rw [Compiled.predicate?, shape]
    exact ⟨_, predicate, split_join connective first rest (shape ▸ closed) (shape ▸ readable)⟩
  · intro before after field head tail whole earlier list first second others shape
    have listClosed := compileFilters_fragments e modes (Grouped 0 0) (compile_grouped e modes) field
      (args.length + earlier.values.length) (head :: tail)
    have listReadable := (FilterInput.compileFilters_numbered e modes field wellFormed (head :: tail)
      (args.length + earlier.values.length)).readable
    obtain ⟨inside, rendered, divided⟩ := joined_split (head.connective.getD .and) first second others
      (shape ▸ listClosed) (shape ▸ listReadable)
    have placed := filterMap_list e modes before after field head tail args.length
    rw [← whole] at placed
    exact ⟨_, _, inside, placed.trans (by rw [shape]; rfl), rendered, divided⟩

def ledger : Entity :=
  (Entity.build "Ledger" "ledger"
    [(Declaration.of "a) OR (b AND c" "number").plain, (Declaration.of "( AND JsonAgg" "array").plain,
     (Declaration.of "tags OR )" "array").plain]
    (.builtin .standard)).toOption.getD ⟨"", "", [], .standard, .standard⟩

theorem ledger_built : ledger.Built :=
  .build _ _ _ _ _ (ok_getD _ _ (by decide +kernel))

def ledgerList : List Filter :=
  [⟨.array [.ofCount 1, .ofCount 2], some "between", none, some .or⟩,
   ⟨.string "x", none, none, none⟩,
   ⟨.string "3", some "lt", none, some .and⟩]

def ledgerFilters : FilterMap :=
  [("( AND JsonAgg", .single ⟨.array [.string "red", .string "2"], none, some ["a", "b"], none⟩),
   ("a) OR (b AND c", .many ledgerList),
   ("tags OR )", .single ⟨.array [.string "x", .string "y"], none, none, none⟩)]

def ledgerFragments : List String :=
  ["EXISTS (SELECT 1 FROM json_array_elements(\"( AND JsonAgg\"::json) AS p WHERE " ++
     "(LOWER(p->>$1) = $2 AND LOWER(p->>$3) = $4))",
   "((\"a) OR (b AND c\" >= $5 AND \"a) OR (b AND c\" <= $6) OR \"a) OR (b AND c\" < $7)",
   "($8 = ANY(\"tags OR )\") OR $9 = ANY(\"tags OR )\"))"]

theorem ledger_grouping :
    ledger.Built ∧
      (ledgerFilters.compile ledger .standard 0).fragments.map Fragment.render = ledgerFragments ∧
      (∀ fragment ∈ (ledgerFilters.compile ledger .standard 0).fragments,
        Balanced fragment.render ∧ Undivided fragment.render) ∧
      (∃ predicate, (ledgerFilters.compile ledger .standard 0).predicate? .and = some predicate ∧
        (split predicate.render).1 :: (split predicate.render).2.map Prod.snd = ledgerFragments ∧
        (split predicate.render).2.map Prod.fst = [.and, .and]) ∧
      ∃ fragment inside, (ledgerFilters.compile ledger .standard 0).fragments[1]? = some fragment ∧
        fragment.render = "(" ++ inside ++ ")" ∧
        split inside =
          ("(\"a) OR (b AND c\" >= $5 AND \"a) OR (b AND c\" <= $6)",
            [(.or, "\"a) OR (b AND c\" < $7")]) := by
  obtain ⟨closed, divided, lists⟩ :=
    predicate_grouping ledger ledger_built .standard ledgerFilters []
  have renders : (ledgerFilters.compile ledger .standard 0).fragments.map Fragment.render =
      ledgerFragments := by decide +kernel
  refine ⟨ledger_built, renders, closed, ?_, ?_⟩
  · obtain ⟨first, rest, shape⟩ : ∃ first rest,
        (ledgerFilters.compile ledger .standard 0).fragments = first :: rest :=
      List.exists_cons_of_ne_nil (by decide +kernel)
    obtain ⟨predicate, joined, parts⟩ := divided .and first rest shape
    have count : rest.length = 2 := by
      have lengths := congrArg List.length renders
      simpa [shape, ledgerFragments] using lengths
    refine ⟨predicate, joined, ?_, ?_⟩
    · simpa [parts, shape, Function.comp_def] using renders
    · rw [parts, List.map_map]
      change rest.map (fun _ => Connective.and) = _
      rw [List.map_const', count]
      rfl
  · let key := Piece.name "a) OR (b AND c"
    let earlier := FilterMap.compile ledger .standard ([] : List Json).length (ledgerFilters.take 1)
    have shape : (FilterInput.compileFilters ledger .standard "a) OR (b AND c"
        (([] : List Json).length + earlier.values.length) ledgerList).fragments =
        [parenthesized [key, .text " >= ", .place 5, .text " AND ", key, .text " <= ", .place 6],
         [key, .text " < ", .place 7]] := by decide +kernel
    obtain ⟨fragment, later, inside, placed, rendered, parts⟩ :=
      lists (ledgerFilters.take 1) (ledgerFilters.drop 2) "a) OR (b AND c" _ _ rfl _ _ [] shape
    have count : earlier.fragments.length = 1 := by decide +kernel
    have position : (earlier.fragments ++ fragment :: later)[1]? = some fragment := by
      rw [← count, List.getElem?_append_right (Nat.le_refl _), Nat.sub_self]
      rfl
    exact ⟨fragment, inside, placed ▸ position, rendered, parts.trans (by decide +kernel)⟩

end EntitySchema

import EntitySchema.Proofs.Filter.Paths
import EntitySchema.Proofs.Json.Equality
import EntitySchema.Proofs.Sql.Select

/-!
# Windows

The window of a statement is read off its end: a place behind `LIMIT` and one behind `OFFSET`, each
with the number that is bound to it. The rest selects rows in an order; the offset is how many of them
are skipped, the limit how many are kept then. A select with a page size has the window that its
request asks for. One without has none, even where the request begins at a later row.
-/

set_option autoImplicit false

namespace EntitySchema

open Sql Sql.Fragment

namespace Json

def count? : Json → Option Nat
  | .number (.whole n _) => if 0 ≤ n then some n.toNat else none
  | _ => none

theorem count_ofCount (n : UInt64) : (ofCount n).count? = some n.toNat := by
  simp [ofCount, count?]

end Json

namespace Sql

inductive Term where
  | char (c : Char)
  | name (identifier : List Char)
  | argument (given : Option Json)
deriving DecidableEq

def Token.term (args : List Json) : Token → Term
  | .char c => .char c
  | .name identifier => .name identifier
  | .place index => .argument (argumentAt args index)

def numberBehind? (word : String) (terms : List Term) : Option (List Term × Nat) :=
  match terms.getLast? with
  | some (.argument (some value)) =>
    let spelled := word.toList.map Term.char
    if spelled.isSuffixOf terms.dropLast then
      value.count?.map (terms.dropLast.take (terms.dropLast.length - spelled.length), ·)
    else none
  | _ => none

structure Window where
  limit : Option Nat
  offset : Nat

namespace Window

def whole : Window := ⟨none, 0⟩

def keep (window : Window) (rows : List Json) : List Json :=
  match window.limit with
  | none => rows.drop window.offset
  | some limit => (rows.drop window.offset).take limit

end Window

def windowed (terms : List Term) : List Term × Window :=
  let (front, offset) := (numberBehind? " OFFSET " terms).getD (terms, 0)
  match numberBehind? " LIMIT " front with
  | some (body, limit) => (body, ⟨some limit, offset⟩)
  | none => (front, ⟨none, offset⟩)

theorem numberBehind_read (word : String) (front : List Term) (value : Json) :
    numberBehind? word (front ++ word.toList.map .char ++ [Term.argument (some value)]) =
      value.count?.map (front, ·) := by
  simp [numberBehind?]

theorem numberBehind_other (word : String) (front : List Term) (given : Option Json)
    (other : ¬word.toList.map .char <:+ front) :
    numberBehind? word (front ++ [.argument given]) = none := by
  cases given <;> simp [numberBehind?, other]

inductive Fragment.Ends : Fragment → Prop where
  | text (front : Fragment) (s : String) (given : s.toList ≠ []) : Ends (front ++ [.text s])
  | name (front : Fragment) (identifier : String) : Ends (front ++ [.name identifier])
  | compared (front : Fragment) (comparison : Comparison) (index : Nat) :
      Ends (front ++ [.text (" " ++ comparison.symbol ++ " "), .place index])

namespace Fragment

theorem ends_append (front last : Fragment) (ends : last.Ends) : (front ++ last).Ends := by
  cases ends with
  | text inner s given => exact List.append_assoc front inner _ ▸ .text _ s given
  | name inner identifier => exact List.append_assoc front inner _ ▸ .name _ identifier
  | compared inner comparison index =>
      exact List.append_assoc front inner _ ▸ .compared _ comparison index

theorem ends_parenthesized (fragment : Fragment) : (parenthesized fragment).Ends :=
  .text (.text "(" :: fragment) ")" (by decide)

theorem ends_join (separator : String) (fragments : List Fragment) (given : fragments ≠ [])
    (ends : ∀ fragment ∈ fragments, fragment.Ends) : (join separator fragments).Ends := by
  induction fragments with
  | nil => exact absurd rfl given
  | cons first rest ih =>
      cases rest with
      | nil => exact ends first (by simp)
      | cons second others =>
          have later := ih (by simp) fun fragment member => ends fragment (List.mem_cons_of_mem _ member)
          exact ends_append first _ (ends_append [.text separator] _ later)

-- A comparison is not written with the last letter of the words that a window begins with.
theorem ends_unread (args : List Json) (fragment : Fragment) (ends : fragment.Ends) (word : String)
    (opening : word ∈ [" LIMIT ", " OFFSET "]) :
    numberBehind? word (fragment.tokens.map (Token.term args)) = none := by
  cases ends with
  | text front s given =>
      obtain ⟨chars, c, shape⟩ := (List.eq_nil_or_concat s.toList).resolve_left given
      simp [numberBehind?, tokens, Piece.tokens, shape, Token.term]
  | name front identifier => simp [numberBehind?, tokens, Piece.tokens, Token.term]
  | compared front comparison index =>
      have read : (Fragment.tokens (front ++
            [.text (" " ++ comparison.symbol ++ " "), .place index])).map (Token.term args) =
          (front.tokens.map (Token.term args) ++
            (" " ++ comparison.symbol ++ " ").toList.map Term.char) ++
              [.argument (argumentAt args index)] := by
        simp [tokens, Piece.tokens, Token.term]
      rw [read]
      apply numberBehind_other
      rw [← List.reverse_prefix, List.reverse_append, ← List.map_reverse, ← List.map_reverse]
      rcases List.mem_pair.mp opening with rfl | rfl <;> cases comparison <;>
        simp [Comparison.symbol]

theorem ends_windowed (args : List Json) (fragment : Fragment) (ends : fragment.Ends) :
    windowed (fragment.tokens.map (Token.term args)) =
      (fragment.tokens.map (Token.term args), .whole) := by
  have noOffset := ends_unread args fragment ends " OFFSET " (by simp)
  have noLimit := ends_unread args fragment ends " LIMIT " (by simp)
  simp only [windowed, noOffset, Option.getD_none, noLimit]
  rfl

end Fragment

theorem windowed_read (front : List Term) (rows first : UInt64) :
    windowed (front ++ " LIMIT ".toList.map .char ++ [.argument (some (.ofCount rows))] ++
        " OFFSET ".toList.map .char ++ [Term.argument (some (.ofCount first))]) =
      (front, ⟨some rows.toNat, first.toNat⟩) := by
  simp only [windowed, numberBehind_read, Json.count_ofCount, Option.map_some, Option.getD_some]

end Sql

theorem joined_ends (connective : String) (fragments : List Fragment)
    (ends : ∀ fragment ∈ fragments, fragment.Ends) : (joined connective fragments).Ends := by
  cases fragments with
  | nil => exact ends_parenthesized _
  | cons first rest =>
      cases rest with
      | nil => exact ends first (by simp)
      | cons second others => exact ends_parenthesized _

theorem test_ends (test : Test) (expr : Fragment) (bound : Nat) : (test.emit expr bound).sql.Ends := by
  cases test with
  | isNull negated => exact .text _ _ (by cases negated <;> decide)
  | compare cast comparison value => exact .compared _ comparison _
  | between cast low high => exact ends_parenthesized _
  | anyOf cast values =>
      exact ends_append _ _ (.text [.text " = ANY(", .place (bound + 1)] ")" (by decide))

mutual
theorem node_ends (node : Node) (base : Fragment) (bound : Nat) (key : String) :
    (node.emit base bound key).sql.Ends := by
  cases node with
  | leaf test => exact test_ends test _ _
  | object members => exact joined_ends "AND" _ (members_end members _ _)

theorem members_end (members : List (String × Node)) (base : Fragment) (bound : Nat) :
    ∀ fragment ∈ (Node.emitMembers base bound members).map Emitted.sql, fragment.Ends := by
  cases members with
  | nil => simp [Node.emitMembers]
  | cons member rest =>
      obtain ⟨key, node⟩ := member
      have here := node_ends node base bound key
      have later := members_end rest base (bound + (node.emit base bound key).values.length)
      simpa [Node.emitMembers, here] using later
end

theorem condition_ends (condition : Condition) (column : Fragment) (bound : Nat) :
    (condition.emit column bound).sql.Ends := by
  cases condition with
  | column test => exact test_ends test column bound
  | document members => exact joined_ends "AND" _ (members_end members column bound)
  | someElement tuples => exact .text _ ")" (by decide)
  | holdsAny values =>
      refine joined_ends "OR" _ fun fragment member => ?_
      obtain ⟨i, _, same⟩ := List.mem_mapIdx.mp member
      exact same ▸ .text _ ")" (by decide)
  | within minLng minLat maxLng maxLat => exact .text _ ")" (by decide)
  | near lng lat radius =>
      exact ends_append _ _ (.text
        [.text ", ST_SetSRID(ST_MakePoint(", .place (bound + 1), .text ", ", .place (bound + 2),
         .text ("), " ++ srid ++ ")::geography, "), .place (bound + 3)] ")" (by decide))

theorem filterMap_ends (e : Entity) (modes : MatchModes) (filters : FilterMap) (bound : Nat) :
    ∀ fragment ∈ (filters.compile e modes bound).fragments, fragment.Ends := by
  refine filterMap_fragments e modes Ends ?_ (fun connective => joined_ends connective.name)
    filters bound
  intro field filter bound emitted compiled
  obtain ⟨condition, _, same⟩ := (map_ok_iff _ _ _).mp compiled
  exact same ▸ condition_ends condition _ bound

theorem selectHead_ends (e : Entity) (withTotal : Bool) : (e.selectHead withTotal).Ends := by
  unfold Entity.selectHead Entity.quotedTable
  cases shape : tableParts e.table with
  | nil => exact .text _ " FROM " (by decide)
  | cons part rest =>
      refine ends_append _ _ (ends_append [.text " FROM "] _ (ends_join "." _ (by simp) ?_))
      intro fragment member
      obtain ⟨part, _, same⟩ := List.mem_map.mp member
      exact same ▸ .name [] part

theorem whereClause_ends (c : Compiled) (connective : Connective) (head : Fragment)
    (headEnds : head.Ends) (ends : ∀ fragment ∈ c.fragments, fragment.Ends) :
    (head ++ c.whereClause connective).Ends := by
  unfold Compiled.whereClause Compiled.predicate?
  cases shape : c.fragments with
  | nil => simpa using headEnds
  | cons fragment rest =>
      exact ends_append head _ (ends_append [.text " WHERE "] _
        (ends_join _ _ (by simp) (shape ▸ ends)))

theorem orderClause_ends (e : Entity) (request : SelectRequest) (head : Fragment)
    (headEnds : head.Ends) : (head ++ e.orderClause request).Ends := by
  unfold Entity.orderClause
  cases request.sortField with
  | none => simpa using headEnds
  | some field =>
      simp only
      split
      · exact ends_append head _ (.text [.text " ORDER BY ", .name field] _
          (by cases request.sortOrder <;> decide))
      · simpa using headEnds

theorem selectBody_ends (e : Entity) (modes : MatchModes) (request : SelectRequest) :
    (e.selectBody modes request).Ends :=
  orderClause_ends e request _ (whereClause_ends _ _ _ (selectHead_ends e request.pagination)
    (filterMap_ends e modes request.filters 0))

namespace Statement

def terms (s : Statement) : List Term := (tokens s.sql.render).map (Token.term s.args)

def rows (source : List Term → List Json) (s : Statement) : List Json :=
  (windowed s.terms).2.keep (source (windowed s.terms).1)

end Statement

namespace SelectRequest

def window (request : SelectRequest) : Window := ⟨request.rows.map (·.toNat), request.first.toNat⟩

def unpaged (request : SelectRequest) : SelectRequest := { request with first := 0, rows := none }

end SelectRequest

theorem terms_append (fragment : Fragment) (args more : List Json)
    (numbered : fragment.Numbered 0 args.length) :
    fragment.tokens.map (Token.term (args ++ more)) = fragment.tokens.map (Token.term args) := by
  refine List.map_congr_left fun token member => ?_
  cases token with
  | char c => rfl
  | name identifier => rfl
  | place index =>
      have written : index ∈ fragment.indices := List.mem_filterMap.mpr ⟨_, member, rfl⟩
      have bounds := counted_bounds _ _ _ numbered.counted index written
      cases index with
      | zero => rfl
      | succ before =>
          simp only [Token.term, argumentAt]
          rw [List.getElem?_append_left (by omega)]

section

variable (e : Entity) (modes : MatchModes) (request : SelectRequest)

def Entity.bodyTerms : List Term :=
  (e.selectBody modes request).tokens.map
    (Token.term (request.filters.compile e modes 0).values)

theorem unpaged_terms (wellFormed : e.WellFormed) (bare : request.rows = none) :
    (e.select modes request).terms = e.bodyTerms modes request := by
  have statement : (e.select modes request).toStatement =
      ⟨e.selectBody modes request, (request.filters.compile e modes 0).values⟩ := by
    simp [Entity.select, Entity.selectBody, SelectRequest.pageClause, bare]
  rw [statement, Statement.terms,
    tokens_render _ (selectBody_numbered e wellFormed modes request).readable]
  rfl

theorem paged_terms (wellFormed : e.WellFormed) (rows : UInt64) (paged : request.rows = some rows) :
    (e.select modes request).terms =
      e.bodyTerms modes request ++ " LIMIT ".toList.map .char ++ [.argument (some (.ofCount rows))] ++
        " OFFSET ".toList.map .char ++ [Term.argument (some (.ofCount request.first))] := by
  have readable := (select_numbered e wellFormed modes request).readable
  have body := selectBody_numbered e wellFormed modes request
  have statement : (e.select modes request).toStatement =
      let bound := (request.filters.compile e modes 0).values
      ⟨e.selectBody modes request ++
        [.text " LIMIT ", .place (bound.length + 1), .text " OFFSET ", .place (bound.length + 2)],
        bound ++ [.ofCount rows, .ofCount request.first]⟩ := by
    simp [Entity.select, Entity.selectBody, SelectRequest.pageClause, paged]
  rw [Statement.terms, tokens_render _ readable, statement, tokens_append, List.map_append,
    terms_append _ _ _ body]
  simp [Entity.bodyTerms, Fragment.tokens, Piece.tokens, Token.term, argumentAt]

theorem select_windowed (wellFormed : e.WellFormed) :
    windowed (e.select modes request).terms =
      (e.bodyTerms modes request, if request.rows.isSome then request.window else .whole) := by
  cases paged : request.rows with
  | none =>
      rw [unpaged_terms e modes request wellFormed paged]
      exact ends_windowed _ _ (selectBody_ends e modes request)
  | some rows =>
      rw [paged_terms e modes request wellFormed rows paged, windowed_read]
      simp [SelectRequest.window, paged]

end

-- The window is that of the request exactly if the request has a page size, or begins at the first
-- row.
theorem window_kept_iff (e : Entity) (built : e.Built) (modes : MatchModes)
    (request : SelectRequest) :
    let s := (e.select modes request).toStatement
    let rest := (e.select modes request.unpaged).terms
    windowed s.terms = (rest, if request.rows.isSome then request.window else .whole) ∧
      ((∀ source, s.rows source = request.window.keep (source rest)) ↔
        request.rows.isSome = true ∨ request.first = 0) := by
  intro s rest
  have wellFormed := built_wellFormed e built
  have bare : rest = e.bodyTerms modes request :=
    unpaged_terms e modes request.unpaged wellFormed rfl
  have read := select_windowed e modes request wellFormed
  rw [← bare] at read
  refine ⟨read, ?_⟩
  simp only [s, Statement.rows, read]
  cases paged : request.rows with
  | some rows => simp
  | none =>
      simp only [Option.isSome_none, Bool.false_eq_true, if_false, false_or]
      constructor
      · intro kept
        have one := congrArg List.length (kept fun _ => [.null])
        simp only [Window.keep, Window.whole, SelectRequest.window, paged, Option.map_none,
          List.length_drop, List.length_singleton] at one
        exact UInt64.toNat_inj.mp (by rw [UInt64.toNat_zero]; omega)
      · intro fromFirst source
        simp [Window.keep, Window.whole, SelectRequest.window, paged, fromFirst]

theorem ordersPage_window :
    orders.Built ∧
      windowed (orders.select .standard ordersPage).terms =
        ((orders.select .standard ordersPage.unpaged).terms, ⟨some 10, 20⟩) ∧
      ∀ source, (orders.select .standard ordersPage).rows source =
        ((source (orders.select .standard ordersPage.unpaged).terms).drop 20).take 10 := by
  obtain ⟨read, kept⟩ := window_kept_iff orders orders_built .standard ordersPage
  exact ⟨orders_built, read, kept.mpr (.inl rfl)⟩

def lateRows : SelectRequest := { SelectRequest.all with first := 20 }

theorem lateRows_unskipped :
    (orders.select .standard lateRows).sql.render =
        "SELECT \"id\", \"cost $1\", \"meta\", \"itemsJsonAgg\" FROM \"shop\".\"orders\"" ∧
      (orders.select .standard lateRows).args = [] ∧
      ∃ source : List Term → List Json,
        ((orders.select .standard lateRows).rows source).length = 30 ∧
        (lateRows.window.keep (source (orders.select .standard lateRows.unpaged).terms)).length =
          10 := by
  have read := select_windowed orders .standard lateRows (built_wellFormed orders orders_built)
  refine ⟨by decide +kernel, rfl, fun _ => List.replicate 30 .null, ?_, rfl⟩
  rw [Statement.rows, read]
  rfl

end EntitySchema

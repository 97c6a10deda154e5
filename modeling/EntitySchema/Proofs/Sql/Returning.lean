import EntitySchema.Proofs.Sql.Keyword
import EntitySchema.Proofs.Sql.Write

set_option autoImplicit false

namespace EntitySchema

open Sql Sql.Fragment

namespace Sql

theorem scan_within_name (read chars : List Char) (reading : Reading)
    (within : reading = .name read ∨ reading = .quote read) :
    ∃ more rest, scan reading chars = .name (read ++ more) :: rest := by
  induction chars generalizing reading read with
  | nil =>
      refine ⟨[], [], ?_⟩
      rcases within with same | same <;> simp [same, scan, Reading.close]
  | cons c chars ih =>
      by_cases quote : c = '"'
      · rcases within with same | same
        · obtain ⟨more, rest, shape⟩ := ih read (.quote read) (.inr rfl)
          exact ⟨more, rest, by simpa [same, scan, Reading.continue?, quote] using shape⟩
        · obtain ⟨more, rest, shape⟩ := ih (read ++ [c]) (.name (read ++ [c])) (.inl rfl)
          exact ⟨c :: more, rest, by simpa [same, scan, Reading.continue?, quote] using shape⟩
      · rcases within with same | same
        · obtain ⟨more, rest, shape⟩ := ih (read ++ [c]) (.name (read ++ [c])) (.inl rfl)
          exact ⟨c :: more, rest, by simpa [same, scan, Reading.continue?, quote] using shape⟩
        · refine ⟨[], scan .plain (c :: chars), ?_⟩
          rw [same, scan_start _ _ _ (by simp [Reading.continue?, quote])]
          simp [Reading.close]

theorem scan_begun (reading : Reading) (chars : List Char) (begun : reading.close ≠ []) :
    scan reading chars ≠ [] := by
  induction chars generalizing reading with
  | nil => exact begun
  | cons c chars ih =>
      rw [scan]
      cases next : reading.continue? c with
      | none => simp [begun]
      | some following =>
          have continued : following.close ≠ [] := by
            cases reading <;> simp only [Reading.continue?] at next <;> grind [Reading.close]
          exact ih following continued

theorem scan_plain_begun (c : Char) (chars : List Char) : scan .plain (c :: chars) ≠ [] := by
  have named := scan_begun (.name []) chars (by simp [Reading.close])
  have placed := scan_begun .dollar chars (by simp [Reading.close])
  rw [scan]
  simp only [Reading.continue?, Reading.close, List.nil_append]
  split
  · exact named
  · split
    · exact placed
    · simp

theorem unquoted_of_single_name (column : String) (identifier : List Char)
    (single : tokens (Fragment.render [.name column]) = [.name identifier])
    (clean : '"' ∉ identifier) : '"' ∉ column.toList := by
  intro quoted
  obtain ⟨before, after, shape, first⟩ := List.eq_append_cons_of_mem quoted
  have read : tokens (Fragment.render [.name column]) = scan (.quote before) (after ++ ['"']) := by
    have written : (Fragment.render [.name column]).toList =
        '"' :: (before ++ '"' :: (after ++ ['"'])) := by
      rw [render_cons, render_name, shape]
      simp [Fragment.render]
    rw [tokens, written, ← List.nil_append before, List.nil_append, scan]
    simpa [Reading.continue?, Reading.close] using scan_name [] before (after ++ ['"']) first
  rw [read] at single
  cases rest : after ++ ['"'] with
  | nil => simp at rest
  | cons c chars =>
      rw [rest] at single
      by_cases quote : c = '"'
      · obtain ⟨more, others, longer⟩ :=
          scan_within_name (before ++ [c]) chars (.name (before ++ [c])) (.inl rfl)
        have continued : scan (.quote before) (c :: chars) = scan (.name (before ++ [c])) chars := by
          simp [scan, Reading.continue?, quote]
        rw [continued, longer] at single
        simp only [List.cons.injEq, Token.name.injEq] at single
        apply clean
        simp [← single.1, quote]
      · rw [scan_start _ _ _ (by simp [Reading.continue?, quote])] at single
        have alone : before = identifier ∧ scan .plain (c :: chars) = [] := by
          simpa [Reading.close] using single
        exact scan_plain_begun c chars alone.2

theorem char_of_tuples (rows : List (List Nat)) (c : Char)
    (read : Token.char c ∈ (join ", " (rows.map tuple)).tokens) : c ∈ [',', ' ', '(', ')'] := by
  have separators : ", ".toList ⊆ [',', ' ', '(', ')'] := by decide
  rcases token_of_join ", " _ _ read with ⟨d, inSeparator, same⟩ | ⟨fragment, member, inFragment⟩
  · cases same
    exact separators inSeparator
  · obtain ⟨places, _, same⟩ := List.mem_map.mp member
    subst same
    have layout : (tuple places).tokens =
        .char '(' :: ((join ", " (places.map fun index => [.place index])).tokens ++ [.char ')']) := by
      simp [tuple, parenthesized, Fragment.tokens, Piece.tokens]
    rw [layout] at inFragment
    rcases List.mem_cons.mp inFragment with first | later
    · cases first
      decide
    · rcases List.mem_append.mp later with inside | last
      · exact separators (char_of_places ", " places c inside)
      · simp_all

end Sql

-- Before its columns are returned, an insert holds no word that could be taken for the one that
-- returns them.
theorem behind_returning (e : Entity) (columns : List String) (rows : List (List Nat))
    (rest : List Token) :
    behind? "RETURNING "
      ((e.insertHead columns rows).tokens ++ (" RETURNING ".toList.map .char ++ rest)) = some rest := by
  let listed := (join ", " (columns.map fun column => [.name column])).tokens
  let values := (join ", " (rows.map tuple)).tokens
  let table := "".toList.map Token.char ++ e.quotedTable.tokens ++ [.char ' ']
  let middle := table ++ (.char '(' :: listed ++ (") VALUES ".toList.map Token.char ++ values)) ++
    [.char ' ']
  have layout : (e.insertHead columns rows).tokens ++ (" RETURNING ".toList.map .char ++ rest) =
      "INSE".toList.map Token.char ++ (.char 'R' :: .char 'T' :: (" INTO ".toList.map Token.char ++
        (middle ++ ("RETURNING ".toList.map Token.char ++ rest)))) := by
    simp [Entity.insertHead, tokens_text_cons, middle, table, listed, values]
  have opening := opening_without e "" 'R' (by decide)
  have without : ∀ token ∈ middle, token ≠ .char 'R' := by
    intro token member same
    subst same
    rcases List.mem_append.mp member with front | last
    · rcases List.mem_append.mp front with inTable | inList
      · simpa using opening _ inTable
      · rcases List.mem_append.mp inList with inListed | inValues
        · rcases List.mem_cons.mp inListed with first | inside
          · cases first
          · exact absurd (char_of_names ", " columns 'R' inside) (by decide)
        · rcases List.mem_append.mp inValues with inWord | inRows
          · revert inWord
            decide
          · exact absurd (char_of_tuples rows 'R' inRows) (by decide)
    · simp at last
  rw [layout, behind_skip "RETURNING " 'R' rfl _ _ (by decide)]
  have other : ∀ tail, behind? "RETURNING " (.char 'R' :: .char 'T' :: tail) =
      behind? "RETURNING " (.char 'T' :: tail) := fun tail => rfl
  rw [other, ← List.singleton_append, behind_skip "RETURNING " 'R' rfl _ _ (by decide),
    behind_skip "RETURNING " 'R' rfl _ _ (by decide), behind_skip "RETURNING " 'R' rfl _ _ without,
    behind_word "RETURNING " _ (by decide)]

theorem returned_read (e : Entity) (wellFormed : e.WellFormed) (records : List Record)
    (column : String) (s : Statement) (accepted : e.insert records (some column) = .ok s) :
    behind? "RETURNING " (tokens s.sql.render) =
      some (tokens (Fragment.render [.name column])) := by
  obtain ⟨sql, _⟩ := insert_accepted e records (some column) s accepted
  rw [sql, returned_name_tokens _ (insertBody_readable e wellFormed records.length),
    Entity.insertBody, behind_returning]

-- What an insert returns is the caller's name between quotes, and nothing else is made of it: one
-- name if no quote is in it, and a column that the entity knows if the caller has named one.
theorem returned_column_iff (e : Entity) (built : e.Built) (records : List Record)
    (column : String) (s : Statement) (accepted : e.insert records (some column) = .ok s) :
    let behind := behind? "RETURNING " (tokens s.sql.render)
    let known (key : String) := key ∈ e.properties.map Property.key ∨ key = idColumn
    behind = some (tokens (Fragment.render [.name column])) ∧
      ((∃ identifier, behind = some [.name identifier] ∧ '"' ∉ identifier) ↔
        '"' ∉ column.toList) ∧
      ((∃ key, behind = some [.name key.toList] ∧ '"' ∉ key.toList ∧ known key) ↔
        known column) := by
  intro behind known
  have wellFormed := built_wellFormed e built
  have read := returned_read e wellFormed records column s accepted
  have alone : '"' ∉ column.toList →
      tokens (Fragment.render [.name column]) = [.name column.toList] := fun clean => by
    rw [tokens_render _ (readable_single (.name column) clean)]
    rfl
  refine ⟨read, ?_, ?_⟩
  · constructor
    · rintro ⟨identifier, single, clean⟩
      exact unquoted_of_single_name column identifier (Option.some.inj (read.symm.trans single)) clean
    · intro clean
      exact ⟨column.toList, read.trans (congrArg some (alone clean)), clean⟩
  · constructor
    · rintro ⟨key, single, clean, given⟩
      have written := Option.some.inj (read.symm.trans single)
      have unquoted := unquoted_of_single_name column key.toList written clean
      rw [alone unquoted] at written
      have same : column = key := String.toList_inj.mp (by simpa using written)
      exact same ▸ given
    · intro given
      have clean : '"' ∉ column.toList := by
        rcases given with declared | identity
        · obtain ⟨p, member, same⟩ := List.mem_map.mp declared
          exact same ▸ valid_key_unquoted p.key (wellFormed.keys p member)
        · subst identity
          decide
      exact ⟨column, read.trans (congrArg some (alone clean)), clean, given⟩

theorem ordersReturned_key :
    orders.Built ∧ ∃ s, orders.insert [[]] (some "cost $1") = .ok s ∧
      ∃ key, behind? "RETURNING " (tokens s.sql.render) = some [.name key.toList] ∧
        '"' ∉ key.toList ∧ (key ∈ orders.properties.map Property.key ∨ key = idColumn) := by
  have accepted := ok_getD (orders.insert [[]] (some "cost $1")) ⟨[], []⟩ (by decide +kernel)
  have returned := returned_column_iff orders orders_built [[]] "cost $1" _ accepted
  exact ⟨orders_built, _, accepted, returned.2.2.mpr (.inl (by decide +kernel))⟩

theorem returned_column_escapes :
    ∃ s, orders.insert [[]] (some "id\"; DELETE FROM orders; --") = .ok s ∧
      s.sql.render =
        "INSERT INTO \"shop\".\"orders\" (\"id\", \"cost $1\", \"meta\", \"itemsJsonAgg\") " ++
          "VALUES ($1, $2, $3, $4) RETURNING \"id\"; DELETE FROM orders; --\"" ∧
      ¬∃ identifier, behind? "RETURNING " (tokens s.sql.render) = some [.name identifier] := by
  refine ⟨_, ok_getD (orders.insert [[]] (some "id\"; DELETE FROM orders; --")) ⟨[], []⟩
    (by decide +kernel), by decide +kernel, ?_⟩
  rintro ⟨identifier, single⟩
  have one : _ = some 1 := congrArg (Option.map List.length) single
  exact absurd one (by decide +kernel)

end EntitySchema

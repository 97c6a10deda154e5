import EntitySchema.Proofs.Sql.Lexing
import Mathlib.Data.List.TakeWhile

set_option autoImplicit false

namespace EntitySchema.Sql

structure ColumnPlace where
  row : Nat
  column : String
  index : Nat
deriving DecidableEq

def Token.name? : Token → Option String
  | .name identifier => some (String.ofList identifier)
  | _ => none

def assigned : List Token → List ColumnPlace
  | .name column :: .char ' ' :: .char '=' :: .char ' ' :: .place index :: rest =>
      ⟨0, String.ofList column, index⟩ :: assigned rest
  | .char 'W' :: _ => []
  | _ :: rest => assigned rest
  | [] => []

def tuples : List Token → List (List Nat)
  | .char '(' :: rest =>
      (rest.takeWhile (· != .char ')')).filterMap Token.place? :: tuples rest
  | .char 'R' :: _ => []
  | _ :: rest => tuples rest
  | [] => []

def inserted (read : List Token) : List ColumnPlace :=
  let columns := ((read.dropWhile (· != .char '(')).takeWhile (· != .char ')')).filterMap Token.name?
  let rows := tuples (read.dropWhile (· != .char ')'))
  (rows.mapIdx fun row places =>
    (columns.zip places).map fun (column, index) => ⟨row, column, index⟩).flatten

def listedColumns (read : List Token) : List String :=
  ((read.dropWhile (· != .char '(')).takeWhile (· != .char ')')).filterMap Token.name?

def listedRows (read : List Token) : List (List Nat) := tuples (read.dropWhile (· != .char ')'))

theorem inserted_listed (read : List Token) :
    inserted read = ((listedRows read).mapIdx fun row places =>
      ((listedColumns read).zip places).map fun (column, index) => ⟨row, column, index⟩).flatten := rfl

def columnPlaces (sql : String) : List ColumnPlace :=
  let read := tokens sql
  if read.head? = some (.char 'I') then inserted read
  else assigned (read.dropWhile (· != .char 'S'))

namespace Fragment

theorem token_of_join (separator : String) (fragments : List Fragment) (token : Token)
    (read : token ∈ (join separator fragments).tokens) :
    (∃ c ∈ separator.toList, token = .char c) ∨ ∃ fragment ∈ fragments, token ∈ fragment.tokens := by
  induction fragments with
  | nil => cases read
  | cons first rest ih =>
      cases rest with
      | nil => exact .inr ⟨first, by simp, read⟩
      | cons second others =>
          rw [tokens_join_cons] at read
          simp only [List.mem_append, List.mem_map] at read
          rcases read with here | ⟨c, inSeparator, same⟩ | later
          · exact .inr ⟨first, by simp, here⟩
          · exact .inl ⟨c, inSeparator, same.symm⟩
          · rcases ih later with inSeparator | ⟨fragment, member, inFragment⟩
            · exact .inl inSeparator
            · exact .inr ⟨fragment, List.mem_cons_of_mem _ member, inFragment⟩

theorem char_of_pieces (separator : String) (pieces : List Piece) (c : Char)
    (wordless : ∀ piece ∈ pieces, ∀ s, piece ≠ .text s)
    (read : Token.char c ∈ (join separator (pieces.map fun piece => [piece])).tokens) :
    c ∈ separator.toList := by
  rcases token_of_join separator _ _ read with ⟨d, inSeparator, same⟩ | ⟨fragment, member, inFragment⟩
  · cases same
    exact inSeparator
  · obtain ⟨piece, inPieces, same⟩ := List.mem_map.mp member
    subst same
    cases piece with
    | text s => exact absurd rfl (wordless _ inPieces s)
    | name identifier => simp [tokens, Piece.tokens] at inFragment
    | place index => simp [tokens, Piece.tokens] at inFragment

theorem char_of_names (separator : String) (names : List String) (c : Char)
    (read : Token.char c ∈ (join separator (names.map fun name => [.name name])).tokens) :
    c ∈ separator.toList := by
  have pieces : names.map (fun name => [Piece.name name]) =
      (names.map Piece.name).map fun piece => [piece] := by simp
  rw [pieces] at read
  exact char_of_pieces separator _ c (by simp) read

theorem char_of_places (separator : String) (indices : List Nat) (c : Char)
    (read : Token.char c ∈ (join separator (indices.map fun index => [.place index])).tokens) :
    c ∈ separator.toList := by
  have pieces : indices.map (fun index => [Piece.place index]) =
      (indices.map Piece.place).map fun piece => [piece] := by simp
  rw [pieces] at read
  exact char_of_pieces separator _ c (by simp) read

theorem names_read (separator : String) (names : List String) :
    (join separator (names.map fun name => [.name name])).tokens.filterMap Token.name? = names := by
  have separated : (separator.toList.map Token.char).filterMap Token.name? = [] := by
    simp [Token.name?]
  induction names with
  | nil => rfl
  | cons first rest ih =>
      cases rest with
      | nil => simp [join, tokens, Piece.tokens, Token.name?]
      | cons second others =>
          simp only [List.map_cons] at ih ⊢
          rw [tokens_join_cons, List.filterMap_append, List.filterMap_append, ih, separated]
          simp [tokens, Piece.tokens, Token.name?]

end Fragment

theorem assigned_char (c : Char) (rest : List Token) (other : c ≠ 'W') :
    assigned (.char c :: rest) = assigned rest := by
  rw [assigned]
  · simp
  · simpa using other

theorem assigned_join (pairs : List (String × Nat)) (rest : List Token) :
    assigned ((Fragment.join ", " (pairs.map fun (column, index) =>
        [.name column, .text " = ", .place index])).tokens ++ .char ' ' :: .char 'W' :: rest) =
      pairs.map fun (column, index) => ⟨0, column, index⟩ := by
  induction pairs with
  | nil => rfl
  | cons first others ih =>
      obtain ⟨column, index⟩ := first
      have read : ∀ behind, assigned (Fragment.tokens [.name column, .text " = ", .place index] ++ behind) =
          ⟨0, column, index⟩ :: assigned behind := by
        intro behind
        have here : Fragment.tokens [.name column, .text " = ", .place index] =
            [.name column.toList, .char ' ', .char '=', .char ' ', .place index] := rfl
        rw [here]
        simp [assigned]
      cases others with
      | nil => exact read _
      | cons second more =>
          simp only [List.map_cons] at ih ⊢
          have separator : (", ".toList.map Token.char) = [.char ',', .char ' '] := rfl
          rw [Fragment.tokens_join_cons, separator, List.append_assoc, read, List.cons_append,
            List.cons_append, List.cons_append, List.cons_append, List.nil_append,
            assigned_char _ _ (by decide), assigned_char _ _ (by decide), ih]

def tuple (places : List Nat) : Fragment :=
  Fragment.parenthesized (Fragment.join ", " (places.map fun index => [.place index]))

theorem tuples_skip (read behind : List Token)
    (skipped : ∀ token ∈ read, token ≠ .char '(' ∧ token ≠ .char 'R') :
    tuples (read ++ behind) = tuples behind := by
  induction read with
  | nil => rfl
  | cons token rest ih =>
      obtain ⟨unopened, running⟩ := skipped token (by simp)
      have tail := ih fun other member => skipped other (by simp [member])
      rw [List.cons_append, tuples, tail]
      · simpa using unopened
      · simpa using running

theorem tuples_tuple (places : List Nat) (behind : List Token) :
    tuples ((tuple places).tokens ++ behind) = places :: tuples behind := by
  let inside := (Fragment.join ", " (places.map fun index => [.place index])).tokens
  have separators : ∀ c, Token.char c ∈ inside → c ∈ [',', ' '] := fun c read =>
    Fragment.char_of_places ", " places c read
  have unclosed : ∀ token ∈ inside, (token != .char ')') = true := by
    intro token member
    simp only [bne_iff_ne]
    intro same
    simpa using separators ')' (same ▸ member)
  have skipped : ∀ token ∈ inside ++ [.char ')'], token ≠ .char '(' ∧ token ≠ .char 'R' := by
    intro token member
    rcases List.mem_append.mp member with isInside | last
    · constructor
      · intro same
        simpa using separators '(' (same ▸ isInside)
      · intro same
        simpa using separators 'R' (same ▸ isInside)
    · simp_all
  have read : inside.filterMap Token.place? = places := by
    change (Fragment.join ", " (places.map fun index => [Piece.place index])).indices = places
    rw [Fragment.indices_join, List.flatMap_map]
    simp
  have layout : (tuple places).tokens ++ behind = .char '(' :: (inside ++ .char ')' :: behind) := by
    simp [tuple, Fragment.parenthesized, inside, Fragment.tokens, Piece.tokens]
  have continued := tuples_skip _ behind skipped
  simp only [List.append_assoc, List.cons_append, List.nil_append] at continued
  rw [layout, tuples, List.takeWhile_append_of_pos unclosed, continued]
  simp [read]

theorem tuples_join (rows : List (List Nat)) (behind : List Token) :
    tuples ((Fragment.join ", " (rows.map tuple)).tokens ++ behind) = rows ++ tuples behind := by
  induction rows with
  | nil => rfl
  | cons first others ih =>
      cases others with
      | nil => exact tuples_tuple first behind
      | cons second more =>
          have separator : (", ".toList.map Token.char) = [.char ',', .char ' '] := rfl
          simp only [List.map_cons] at ih ⊢
          rw [Fragment.tokens_join_cons, separator, List.append_assoc, List.append_assoc, tuples_tuple,
            tuples_skip _ _ (by decide), ih]
          rfl

end EntitySchema.Sql

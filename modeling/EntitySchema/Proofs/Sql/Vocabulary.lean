import EntitySchema.Proofs.Sql.Lexing

set_option autoImplicit false

namespace EntitySchema.Sql

def vocabulary : List String :=
  ["SELECT ", "COUNT(*) OVER () AS total", " FROM ", " WHERE ", " ORDER BY ", " ASC", " DESC",
   " LIMIT ", " OFFSET ",
   "INSERT INTO ", ") VALUES ", "UPDATE ", " SET ", "DELETE FROM ",
   ".", ", ", "(", " (", ")", " AND ", " OR ",
   " = ", " <> ", " < ", " <= ", " > ", " >= ", " LIKE ", " NOT LIKE ", " = ANY(", " IS NULL",
   " IS NOT NULL",
   "LOWER(", "CAST(", " AS NUMERIC)", " AS BOOLEAN)", "->", "->>",
   "p", "EXISTS (SELECT 1 FROM json_array_elements(", "::json) AS p WHERE ",
   "ST_Contains(ST_MakeEnvelope(", ", 4326), ", "ST_DWithin(", ", ST_SetSRID(ST_MakePoint(",
   "), 4326)::geography, "]

inductive Composed (names : List String) : List Token → Prop where
  | nil : Composed names []
  | text (s : String) (rest : List Token) (fixed : s ∈ vocabulary)
      (composed : Composed names rest) : Composed names (s.toList.map .char ++ rest)
  | name (identifier : String) (rest : List Token) (known : identifier ∈ names)
      (composed : Composed names rest) : Composed names (.name identifier.toList :: rest)
  | place (index : Nat) (rest : List Token) (composed : Composed names rest) :
      Composed names (.place index :: rest)

theorem composed_name (names : List String) (read : List Token) (identifier : List Char)
    (composed : Composed names read) (written : .name identifier ∈ read) :
    String.ofList identifier ∈ names := by
  induction composed with
  | nil => cases written
  | text s rest fixed _ ih =>
      rcases List.mem_append.mp written with inText | later
      · simp at inText
      · exact ih later
  | name other rest known _ ih =>
      rcases List.mem_cons.mp written with here | later
      · cases here
        simpa using known
      · exact ih later
  | place index rest _ ih =>
      rcases List.mem_cons.mp written with here | later
      · cases here
      · exact ih later

def Piece.From (names : List String) : Piece → Prop
  | .text s => s ∈ vocabulary
  | .name identifier => identifier ∈ names
  | .place _ => True

namespace Fragment

def From (names : List String) (fragment : Fragment) : Prop := ∀ piece ∈ fragment, piece.From names

variable (names : List String)

@[simp]
theorem from_text (s : String) : (Piece.text s).From names ↔ s ∈ vocabulary := Iff.rfl

@[simp]
theorem from_name (identifier : String) :
    (Piece.name identifier).From names ↔ identifier ∈ names := Iff.rfl

@[simp]
theorem from_place (index : Nat) : (Piece.place index).From names := trivial

@[simp]
theorem from_nil : From names [] := by simp [From]

@[simp]
theorem from_cons (piece : Piece) (rest : Fragment) :
    From names (piece :: rest) ↔ piece.From names ∧ From names rest := by
  simp [From]

@[simp]
theorem from_append (left right : Fragment) :
    From names (left ++ right) ↔ From names left ∧ From names right := by
  simp only [From, List.mem_append, or_imp, forall_and]

theorem from_subset (others : List String) (among : names ⊆ others) (fragment : Fragment)
    (known : fragment.From names) : fragment.From others := by
  intro piece member
  cases piece with
  | text s => exact known (.text s) member
  | name identifier => exact among (known (.name identifier) member)
  | place index => trivial

theorem from_join (separator : String) (fixed : separator ∈ vocabulary) (fragments : List Fragment)
    (known : ∀ fragment ∈ fragments, fragment.From names) : From names (join separator fragments) := by
  induction fragments with
  | nil => exact from_nil names
  | cons first rest ih =>
      have here := known first (by simp)
      cases rest with
      | nil => exact here
      | cons second others =>
          have later := ih fun fragment member => known fragment (List.mem_cons_of_mem _ member)
          exact (from_append names _ _).mpr ⟨here, (from_cons names _ _).mpr ⟨fixed, later⟩⟩

theorem from_parenthesized (fragment : Fragment) (known : fragment.From names) :
    (parenthesized fragment).From names := by
  have opening : "(" ∈ vocabulary := by decide
  have closing : ")" ∈ vocabulary := by decide
  simp [parenthesized, known, opening, closing]

theorem from_names (identifiers : List String) (known : ∀ identifier ∈ identifiers, identifier ∈ names) :
    ∀ fragment ∈ identifiers.map (fun identifier => [Piece.name identifier]),
      Fragment.From names fragment := by
  intro fragment member
  obtain ⟨identifier, inList, same⟩ := List.mem_map.mp member
  subst same
  simpa using known identifier inList

theorem composed_of_from (fragment : Fragment) (known : fragment.From names) :
    Composed names fragment.tokens := by
  induction fragment with
  | nil => exact .nil
  | cons piece rest ih =>
      obtain ⟨here, later⟩ := (from_cons names piece rest).mp known
      cases piece with
      | text s => exact .text s _ here (ih later)
      | name identifier => exact .name identifier _ here (ih later)
      | place index => exact .place index _ (ih later)

theorem composed_render (fragment : Fragment) (readable : fragment.Readable)
    (known : fragment.From names) : Composed names (Sql.tokens fragment.render) := by
  rw [tokens_render fragment readable]
  exact composed_of_from names fragment known

end Fragment

end EntitySchema.Sql

import EntitySchema.Proofs.Sql.Reference

set_option autoImplicit false

namespace EntitySchema.Sql

def qualified : List Token → List Token
  | .char 'p' :: .char '-' :: rest => .name ['p'] :: .char '-' :: qualified rest
  | token :: rest => token :: qualified rest
  | [] => []

def elementReferences (sql : String) : List Reference := references (qualified (tokens sql))

theorem qualified_cons (token : Token) (rest : List Token) (other : token ≠ .char 'p') :
    qualified (token :: rest) = token :: qualified rest := by
  rw [qualified]
  intro _ same
  exact absurd same other

theorem qualified_append (read rest : List Token) (silent : .char 'p' ∉ read) :
    qualified (read ++ rest) = read ++ qualified rest := by
  induction read with
  | nil => rfl
  | cons token read ih =>
      rw [List.mem_cons, not_or] at silent
      rw [List.cons_append, qualified_cons token _ (Ne.symm silent.1), ih silent.2, List.cons_append]

theorem qualified_places (read : List Token) :
    (qualified read).filterMap Token.place? = read.filterMap Token.place? := by
  fun_induction qualified read with
  | case1 rest ih => exact ih
  | case2 token rest _ ih => rw [List.filterMap_cons, List.filterMap_cons, ih]
  | case3 => rfl

def ReadsAs (fragment named : Fragment) : Prop :=
  ∀ rest, qualified (fragment.tokens ++ rest) = named.tokens ++ qualified rest

namespace ReadsAs

theorem whole (fragment named : Fragment) (same : ReadsAs fragment named) :
    qualified fragment.tokens = named.tokens := by
  simpa [qualified] using same []

theorem silent (fragment : Fragment) (silent : .char 'p' ∉ fragment.tokens) :
    ReadsAs fragment fragment :=
  fun rest => qualified_append fragment.tokens rest silent

theorem append (first second named other : Fragment) (same : ReadsAs first named)
    (behind : ReadsAs second other) : ReadsAs (first ++ second) (named ++ other) := by
  intro rest
  rw [Fragment.tokens_append, Fragment.tokens_append, List.append_assoc, List.append_assoc, same,
    behind]

theorem text_cons (s : String) (fragment named : Fragment) (quiet : 'p' ∉ s.toList)
    (same : ReadsAs fragment named) : ReadsAs (.text s :: fragment) (.text s :: named) :=
  append [.text s] fragment [.text s] named
    (silent _ (by simpa [Fragment.tokens, Piece.tokens] using quiet)) same

theorem append_text (s : String) (fragment named : Fragment) (quiet : 'p' ∉ s.toList)
    (same : ReadsAs fragment named) : ReadsAs (fragment ++ [.text s]) (named ++ [.text s]) :=
  append _ _ _ _ same (silent _ (by simpa [Fragment.tokens, Piece.tokens] using quiet))

theorem append_place (s : String) (index : Nat) (fragment named : Fragment) (quiet : 'p' ∉ s.toList)
    (same : ReadsAs fragment named) :
    ReadsAs (fragment ++ [.text s, .place index]) (named ++ [.text s, .place index]) :=
  append _ _ _ _ same (silent _ (by simpa [Fragment.tokens, Piece.tokens] using quiet))

theorem parenthesized (fragment named : Fragment) (same : ReadsAs fragment named) :
    ReadsAs (Fragment.parenthesized fragment) (Fragment.parenthesized named) :=
  append_text ")" _ _ (by decide) (text_cons "(" _ _ (by decide) same)

theorem join (separator : String) (quiet : 'p' ∉ separator.toList) (fragments named : List Fragment)
    (same : List.Forall₂ ReadsAs fragments named) :
    ReadsAs (Fragment.join separator fragments) (Fragment.join separator named) := by
  induction same with
  | nil => exact fun rest => rfl
  | cons first more ih =>
      cases more with
      | nil => exact first
      | cons _ _ => exact append _ _ _ _ first (text_cons separator _ _ quiet ih)

theorem joined (connective : String) (quiet : 'p' ∉ (" " ++ connective ++ " ").toList)
    (fragments named : List Fragment) (same : List.Forall₂ ReadsAs fragments named) :
    ReadsAs (EntitySchema.joined connective fragments) (EntitySchema.joined connective named) := by
  have several := parenthesized _ _ (join _ quiet fragments named same)
  cases same with
  | nil => exact several
  | cons first more =>
      cases more with
      | nil => exact first
      | cons _ _ => exact several

end ReadsAs

def Leads (base named : Fragment) : Prop :=
  ∀ (arrow : String) (index : Nat), IsArrow arrow →
    ReadsAs (base ++ [.text arrow, .place index]) (named ++ [.text arrow, .place index])

theorem element_leads : Leads [.text "p"] (path "p" []) := by
  rintro arrow index (rfl | rfl) <;> exact fun rest => rfl

theorem leads_on (base named : Fragment) (leads : Leads base named) (arrow : String) (index : Nat)
    (known : IsArrow arrow) :
    Leads (base ++ [.text arrow, .place index]) (named ++ [.text arrow, .place index]) := by
  rintro next place (rfl | rfl) <;>
    exact ReadsAs.append_place _ _ _ _ (by decide) (leads arrow index known)

theorem arrows_lead (read : List Token) (step : String × Nat) (more : List (String × Nat))
    (drawn : arrows read = step :: more) : (read.filterMap Token.place?).head? = some step.2 := by
  unfold arrows at drawn
  split at drawn <;> cases drawn <;> rfl

theorem references_lead (read : List Token) (settled : ahead read = []) (first : Reference)
    (others : List Reference) (found : references read = first :: others) (step : String × Nat)
    (more : List (String × Nat)) (steps : first.steps = step :: more) :
    (read.filterMap Token.place?).head? = some step.2 := by
  induction read with
  | nil => cases found
  | cons token rest ih =>
      cases token with
      | name column =>
          rw [references, List.cons.injEq] at found
          obtain ⟨rfl, _⟩ := found
          exact arrows_lead rest step more steps
      | place index => cases settled
      | char c => exact ih settled found

end EntitySchema.Sql

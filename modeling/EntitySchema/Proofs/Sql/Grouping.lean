import EntitySchema.Filter.Input
import EntitySchema.Proofs.Sql.Renumbering

/-!
# Parentheses and connectives

Parentheses are counted outside of names. A condition is divided where a connective stands outside
of all parentheses. SQL that closes what it opens and has its connectives in parentheses stays in
one part wherever it is put.
-/

set_option autoImplicit false

namespace EntitySchema.Sql

-- The parentheses that are open behind a token; none where one is closed that was not opened.
def Token.depth? (depth : Nat) (token : Token) : Option Nat :=
  if token = .char '(' then some (depth + 1)
  else if token = .char ')' then if depth = 0 then none else some (depth - 1)
  else some depth

def depth? (depth : Nat) (read : List Token) : Option Nat := read.foldlM Token.depth? depth

def Balanced (sql : String) : Prop := depth? 0 (tokens sql) = some 0

def Undivided (sql : String) : Prop :=
  ∀ (connective : Connective) (before after : List Token),
    tokens sql = before ++ (connective.name.toList.map Token.char ++ after) →
      depth? 0 before ≠ some 0

def divide : Nat → List Token → List Token × List (Connective × List Token)
  | _, [] => ([], [])
  | 0, .char ' ' :: .char 'A' :: .char 'N' :: .char 'D' :: .char ' ' :: rest =>
      ([], (.and, (divide 0 rest).1) :: (divide 0 rest).2)
  | 0, .char ' ' :: .char 'O' :: .char 'R' :: .char ' ' :: rest =>
      ([], (.or, (divide 0 rest).1) :: (divide 0 rest).2)
  | depth, token :: rest =>
      let divided := divide ((token.depth? depth).getD 0) rest
      (token :: divided.1, divided.2)

def split (sql : String) : String × List (Connective × String) :=
  let divided := divide 0 (tokens sql)
  (write divided.1, divided.2.map fun (connective, part) => (connective, write part))

def Divides (connective : Connective) (sql : String) (parts : List String) : Prop :=
  ∃ first rest, parts = first :: rest ∧ split sql = (first, rest.map fun part => (connective, part))

def outer : Nat → List Token → List Token
  | _, [] => []
  | depth, token :: rest =>
      let later := outer ((token.depth? depth).getD 0) rest
      if depth = 0 then token :: later else later

theorem depth_append (first : Nat) (left right : List Token) :
    depth? first (left ++ right) = (depth? first left).bind fun middle => depth? middle right := by
  simp [depth?, List.foldlM_append]

theorem depth_cons (first : Nat) (token : Token) (rest : List Token) :
    depth? first (token :: rest) = (token.depth? first).bind fun next => depth? next rest := by
  simp [depth?]

theorem token_deeper (token : Token) (first last k : Nat) (opened : token.depth? first = some last) :
    token.depth? (first + k) = some (last + k) := by
  unfold Token.depth? at opened ⊢
  by_cases opens : token = .char '('
  · obtain rfl : first + 1 = last := by simpa [opens] using opened
    simp [opens, Nat.add_right_comm]
  · by_cases closes : token = .char ')'
    · by_cases outside : first = 0
      · simp [closes, outside] at opened
      · obtain rfl : first - 1 = last := by simpa [closes, outside] using opened
        have still : first + k - 1 = first - 1 + k := by omega
        simp [closes, outside, still]
    · simpa [opens, closes] using opened

theorem depth_deeper (read : List Token) (first last k : Nat) (opened : depth? first read = some last) :
    depth? (first + k) read = some (last + k) := by
  induction read generalizing first with
  | nil => simpa [depth?] using opened
  | cons token rest ih =>
      rw [depth_cons] at opened ⊢
      obtain ⟨next, here, later⟩ := Option.bind_eq_some_iff.mp opened
      rw [token_deeper token first next k here]
      exact ih next later

theorem outer_append (first middle : Nat) (left right : List Token)
    (opened : depth? first left = some middle) :
    outer first (left ++ right) = outer first left ++ outer middle right := by
  induction left generalizing first with
  | nil =>
      obtain rfl : first = middle := by simpa [depth?] using opened
      rfl
  | cons token rest ih =>
      rw [depth_cons] at opened
      obtain ⟨next, here, later⟩ := Option.bind_eq_some_iff.mp opened
      simp only [List.cons_append, outer, here, Option.getD_some, ih next later]
      split <;> rfl

theorem outer_inside (read : List Token) (first last k : Nat)
    (opened : depth? first read = some last) : outer (first + k + 1) read = [] := by
  induction read generalizing first with
  | nil => rfl
  | cons token rest ih =>
      rw [depth_cons] at opened
      obtain ⟨next, here, later⟩ := Option.bind_eq_some_iff.mp opened
      have deeper := token_deeper token first next (k + 1) here
      rw [← Nat.add_assoc, ← Nat.add_assoc] at deeper
      simpa [outer, deeper] using ih next later

def Token.Joins (a b : Token) : Prop :=
  (a = .char 'N' ∧ b = .char 'D') ∨ (a = .char 'O' ∧ b = .char 'R')

instance (a b : Token) : Decidable (a.Joins b) := inferInstanceAs (Decidable (_ ∨ _))

def Wordless (read : List Token) : Prop := List.IsChain (fun a b => ¬a.Joins b) read

instance (read : List Token) : Decidable (Wordless read) := inferInstanceAs (Decidable (List.IsChain _ _))

-- Tokens that hold no connective and do not end one that has begun before them.
def Quiet (read : List Token) : Prop :=
  (∀ token ∈ read.head?, token ≠ .char 'D' ∧ token ≠ .char 'R') ∧ Wordless read

instance (read : List Token) : Decidable (Quiet read) := inferInstanceAs (Decidable (_ ∧ _))

theorem quiet_nil : Quiet [] := ⟨by simp, .nil⟩

theorem quiet_append (left right : List Token) (leftQuiet : Quiet left) (rightQuiet : Quiet right) :
    Quiet (left ++ right) := by
  refine ⟨?_, List.isChain_append.mpr ⟨leftQuiet.2, rightQuiet.2, ?_⟩⟩
  · intro token first
    cases left with
    | nil => exact rightQuiet.1 token first
    | cons head tail => exact leftQuiet.1 token first
  · intro a _ b first joins
    obtain ⟨notD, notR⟩ := rightQuiet.1 b first
    rcases joins with ⟨_, isD⟩ | ⟨_, isR⟩
    · exact notD isD
    · exact notR isR

namespace Fragment

structure Grouped (first last : Nat) (fragment : Fragment) : Prop where
  depth : depth? first fragment.tokens = some last
  quiet : Quiet (outer first fragment.tokens)

instance (first last : Nat) (fragment : Fragment) : Decidable (fragment.Grouped first last) :=
  decidable_of_iff
    (depth? first fragment.tokens = some last ∧ Quiet (outer first fragment.tokens))
    ⟨fun both => ⟨both.1, both.2⟩, fun grouped => ⟨grouped.depth, grouped.quiet⟩⟩

theorem grouped_append (first middle last : Nat) (left right : Fragment)
    (leftGrouped : left.Grouped first middle) (rightGrouped : right.Grouped middle last) :
    Grouped first last (left ++ right) := by
  constructor
  · rw [tokens_append, depth_append, leftGrouped.depth, Option.bind_some, rightGrouped.depth]
  · rw [tokens_append, outer_append first middle _ _ leftGrouped.depth]
    exact quiet_append _ _ leftGrouped.quiet rightGrouped.quiet

theorem nil_grouped (depth : Nat) : Grouped depth depth [] := ⟨rfl, quiet_nil⟩

theorem single_quiet (depth : Nat) (token : Token) (notD : token ≠ .char 'D')
    (notR : token ≠ .char 'R') : Quiet (outer depth [token]) := by
  unfold outer
  split
  · exact ⟨by simpa using ⟨notD, notR⟩, .singleton token⟩
  · exact quiet_nil

theorem name_grouped (depth : Nat) (identifier : String) : Grouped depth depth [.name identifier] :=
  ⟨rfl, single_quiet depth _ (by simp) (by simp)⟩

theorem place_grouped (depth index : Nat) : Grouped depth depth [.place index] :=
  ⟨rfl, single_quiet depth _ (by simp) (by simp)⟩

theorem grouped_cons (first middle last : Nat) (piece : Piece) (rest : Fragment)
    (grouped : Grouped first middle [piece]) (restGrouped : rest.Grouped middle last) :
    Grouped first last (piece :: rest) :=
  grouped_append first middle last [piece] rest grouped restGrouped

theorem grouped_inside (fragment : Fragment) (first last k : Nat)
    (grouped : fragment.Grouped first last) :
    fragment.Grouped (first + k + 1) (last + k + 1) := by
  constructor
  · exact depth_deeper fragment.tokens first last (k + 1) grouped.depth
  · rw [outer_inside fragment.tokens first last k grouped.depth]
    exact quiet_nil

theorem join_grouped (depth : Nat) (separator : String) (separated : Grouped depth depth [.text separator])
    (fragments : List Fragment) (grouped : ∀ fragment ∈ fragments, fragment.Grouped depth depth) :
    Grouped depth depth (join separator fragments) := by
  induction fragments with
  | nil => exact nil_grouped depth
  | cons first rest ih =>
      have here := grouped first (by simp)
      cases rest with
      | nil => exact here
      | cons second others =>
          have later := ih fun other member => grouped other (List.mem_cons_of_mem _ member)
          exact grouped_append _ _ _ _ _ here (grouped_append _ _ _ _ _ separated later)

theorem enclosed_grouped (opening closing : String) (fragment : Fragment)
    (opens : Grouped 0 1 [.text opening]) (grouped : fragment.Grouped 1 1)
    (closes : Grouped 1 0 [.text closing]) :
    Grouped 0 0 (.text opening :: fragment ++ [.text closing]) :=
  grouped_append 0 1 0 _ _ (grouped_cons 0 1 1 _ _ opens grouped) closes

theorem parenthesized_grouped (fragment : Fragment) (grouped : fragment.Grouped 1 1) :
    (parenthesized fragment).Grouped 0 0 :=
  enclosed_grouped "(" ")" fragment (by decide) grouped (by decide)

theorem render_parenthesized (fragment : Fragment) :
    (parenthesized fragment).render = "(" ++ fragment.render ++ ")" := by
  apply String.toList_inj.mp
  simp [parenthesized, render, String.toList_join, Piece.render]

end Fragment

theorem outer_word (connective : Connective) (rest : List Token) :
    outer 0 (connective.name.toList.map Token.char ++ rest) =
      connective.name.toList.map Token.char ++ outer 0 rest := by
  cases connective <;> rfl

theorem word_joins (connective : Connective) (before after : List Token) :
    ¬Wordless (before ++ (connective.name.toList.map Token.char ++ after)) := by
  intro wordless
  have word : Wordless (connective.name.toList.map Token.char) :=
    (List.isChain_append.mp (List.isChain_append.mp wordless).2.1).1
  cases connective <;> revert word <;> decide

theorem quiet_leads (connective : Connective) (read rest after : List Token)
    (quiet : Wordless (outer 0 read))
    (behind : ∀ token ∈ rest.head?, token = .char ' ') :
    read ++ rest ≠ connective.name.toList.map Token.char ++ after := by
  intro same
  rcases List.append_eq_append_iff.mp same with ⟨middle, word, restEq⟩ | ⟨middle, readEq, _⟩
  · cases middle with
    | nil =>
        rw [List.append_nil] at word
        have whole := outer_word connective []
        rw [List.append_nil, word] at whole
        rw [whole, ← word] at quiet
        exact word_joins connective [] [] quiet
    | cons token more =>
        have blank := behind token (by simp [restEq])
        have inWord : Token.char ' ' ∈ connective.name.toList.map Token.char := by simp [word, blank]
        cases connective <;> revert inWord <;> decide
  · rw [readEq, outer_word] at quiet
    exact word_joins connective [] _ quiet

theorem divide_connective (connective : Connective) (rest : List Token) :
    divide 0 ((" " ++ connective.name ++ " ").toList.map Token.char ++ rest) =
      ([], (connective, (divide 0 rest).1) :: (divide 0 rest).2) := by
  cases connective <;> rfl

-- By induction on what is read: it closes its parentheses, and no connective begins in it outside of
-- them.
theorem divide_onto (read rest : List Token) (first : Nat) (closed : depth? first read = some 0)
    (quiet : Wordless (outer first read))
    (behind : ∀ token ∈ rest.head?, token = .char ' ') :
    divide first (read ++ rest) = (read ++ (divide 0 rest).1, (divide 0 rest).2) := by
  induction read generalizing first with
  | nil =>
      obtain rfl : first = 0 := by simpa [depth?] using closed
      rfl
  | cons token more ih =>
      rw [depth_cons] at closed
      obtain ⟨next, here, later⟩ := Option.bind_eq_some_iff.mp closed
      have moreQuiet : Wordless (outer next more) := by
        simp only [outer, here, Option.getD_some] at quiet
        split at quiet
        · exact quiet.tail
        · exact quiet
      have tail := ih next later moreQuiet
      have begins : ∀ (connective : Connective) (after : List Token), first = 0 → token = .char ' ' →
          more ++ rest ≠ connective.name.toList.map Token.char ++ after := by
        intro connective after outside blank
        subst outside blank
        obtain rfl : next = 0 := by simpa [Token.depth?, eq_comm] using here
        exact quiet_leads connective more rest after moreQuiet behind
      rw [List.cons_append, divide, here, Option.getD_some, tail]
      · rfl
      · exact fun after outside blank => begins .and (.char ' ' :: after) outside blank
      · exact fun after outside blank => begins .or (.char ' ' :: after) outside blank

namespace Fragment

theorem divide_join (connective : Connective) (first : Fragment) (rest : List Fragment)
    (closed : ∀ part ∈ first :: rest, part.Grouped 0 0) :
    divide 0 (join (" " ++ connective.name ++ " ") (first :: rest)).tokens =
      (first.tokens, rest.map fun part => (connective, part.tokens)) := by
  induction rest generalizing first with
  | nil =>
      have here := closed first (by simp)
      simpa [join, divide] using
        divide_onto first.tokens [] 0 here.depth here.quiet.2 (by simp)
  | cons second others ih =>
      have here := closed first (by simp)
      have later := ih second fun part member => closed part (List.mem_cons_of_mem _ member)
      rw [tokens_join_cons, divide_onto first.tokens _ 0 here.depth here.quiet.2, divide_connective,
        later]
      · simp
      · cases connective <;> simp [Connective.name]

theorem split_join (connective : Connective) (first : Fragment) (rest : List Fragment)
    (closed : ∀ part ∈ first :: rest, part.Grouped 0 0)
    (readable : ∀ part ∈ first :: rest, part.Readable) :
    split (join (" " ++ connective.name ++ " ") (first :: rest)).render =
      (first.render, rest.map fun part => (connective, part.render)) := by
  have joinReadable := readable_join (" " ++ connective.name ++ " ")
    (by cases connective <;> decide) (first :: rest) readable
  have written : ∀ part ∈ first :: rest, write part.tokens = part.render := fun part member =>
    write_tokens part (readable part member).clean
  rw [split, tokens_render _ joinReadable, divide_join connective first rest closed]
  simp only [written first (by simp), List.map_map, Prod.mk.injEq, true_and]
  apply List.map_congr_left
  intro part member
  simp [written part (by simp [member])]

theorem render_join (separator : String) (fragments : List Fragment) :
    (join separator fragments).render = separator.intercalate (fragments.map render) := by
  induction fragments with
  | nil => rfl
  | cons first rest ih =>
      cases rest with
      | nil => simp [join]
      | cons second others =>
          rw [List.map_cons, List.map_cons, String.intercalate_cons_cons, ← List.map_cons, ← ih]
          apply String.toList_inj.mp
          simp [join, render_append, render_cons, render_text]

theorem join_divides (connective : Connective) (fragments : List Fragment) (given : fragments ≠ [])
    (readable : ∀ part ∈ fragments, part.Readable) (closed : ∀ part ∈ fragments, part.Grouped 0 0) :
    Divides connective (join (" " ++ connective.name ++ " ") fragments).render
      (fragments.map render) := by
  cases fragments with
  | nil => exact absurd rfl given
  | cons first rest =>
      refine ⟨_, _, rfl, ?_⟩
      rw [split_join connective first rest closed readable, List.map_map]
      rfl

theorem grouped_balanced (fragment : Fragment) (grouped : fragment.Grouped 0 0)
    (readable : fragment.Readable) : Balanced fragment.render := by
  rw [Balanced, tokens_render fragment readable]
  exact grouped.depth

theorem grouped_undivided (fragment : Fragment) (grouped : fragment.Grouped 0 0)
    (readable : fragment.Readable) : Undivided fragment.render := by
  intro connective before after read closed
  have quiet := grouped.quiet.2
  rw [tokens_render fragment readable] at read
  rw [read, outer_append 0 0 before _ closed, outer_word] at quiet
  exact word_joins connective _ _ quiet

end Fragment

example : split "(\"a\" < $1 OR \"b\" = $2) AND \"x) OR \" = $3" =
    ("(\"a\" < $1 OR \"b\" = $2)", [(.and, "\"x) OR \" = $3")]) := by decide +kernel

end EntitySchema.Sql

import EntitySchema.Filter.Condition
import EntitySchema.Proofs.Sql.Lexing

set_option autoImplicit false

namespace EntitySchema.Sql

structure Reference where
  column : List Char
  steps : List (String × Nat)
  values : List Nat
deriving DecidableEq

def arrows : List Token → List (String × Nat)
  | .char '-' :: .char '>' :: .char '>' :: .place index :: rest => ("->>", index) :: arrows rest
  | .char '-' :: .char '>' :: .place index :: rest => ("->", index) :: arrows rest
  | _ => []

def ahead : List Token → List Nat
  | [] => []
  | .name _ :: _ => []
  | .place index :: rest => index :: ahead rest
  | .char _ :: rest => ahead rest

def references : List Token → List Reference
  | [] => []
  | .name column :: rest =>
    ⟨column, arrows rest, (ahead rest).drop (arrows rest).length⟩ :: references rest
  | .char _ :: rest | .place _ :: rest => references rest

def path (column : String) (steps : List (String × Nat)) : Fragment :=
  .name column :: steps.flatMap fun (arrow, index) => [.text arrow, .place index]

def stepTokens (steps : List (String × Nat)) : List Token :=
  steps.flatMap fun (arrow, index) => arrow.toList.map .char ++ [.place index]

def IsArrow (arrow : String) : Prop := arrow = "->" ∨ arrow = "->>"

theorem Fragment.tokens_place_cons (index : Nat) (rest : Fragment) :
    Fragment.tokens (.place index :: rest) = .place index :: Fragment.tokens rest := rfl

theorem path_append (column : String) (steps : List (String × Nat)) (arrow : String) (index : Nat) :
    path column (steps ++ [(arrow, index)]) = path column steps ++ [.text arrow, .place index] := by
  simp [path]

theorem tokens_path (column : String) (steps : List (String × Nat)) :
    (path column steps).tokens = .name column.toList :: stepTokens steps := by
  induction steps with
  | nil => rfl
  | cons step rest ih =>
      obtain ⟨arrow, index⟩ := step
      simp only [path, stepTokens, Fragment.tokens, List.flatMap_cons, Piece.tokens,
        List.cons_append, List.nil_append, List.cons.injEq, true_and, List.append_assoc] at ih ⊢
      rw [ih]

theorem ahead_chars (chars : List Char) (rest : List Token) :
    ahead (chars.map .char ++ rest) = ahead rest := by
  induction chars with
  | nil => rfl
  | cons c chars ih => exact ih

theorem references_chars (chars : List Char) (rest : List Token) :
    references (chars.map .char ++ rest) = references rest := by
  induction chars with
  | nil => rfl
  | cons c chars ih => exact ih

def Parted (rest : List Token) : Prop := ∃ c more, rest = .char c :: more ∧ c ≠ '-'

theorem arrows_parted (rest : List Token) (parted : Parted rest) : arrows rest = [] := by
  obtain ⟨c, more, rfl, other⟩ := parted
  rw [arrows] <;> simp [other]

theorem parted_append (first rest : List Token) (parted : Parted first) :
    Parted (first ++ rest) := by
  obtain ⟨c, more, rfl, other⟩ := parted
  exact ⟨c, more ++ rest, rfl, other⟩

theorem arrows_steps (steps : List (String × Nat)) (rest : List Token)
    (known : ∀ step ∈ steps, IsArrow step.1) (parted : Parted rest) :
    arrows (stepTokens steps ++ rest) = steps := by
  induction steps with
  | nil => exact arrows_parted rest parted
  | cons step steps ih =>
      obtain ⟨arrow, index⟩ := step
      have others := ih fun step member => known step (List.mem_cons_of_mem _ member)
      rcases known (arrow, index) List.mem_cons_self with rfl | rfl
      · exact congrArg (("->", index) :: ·) others
      · exact congrArg (("->>", index) :: ·) others

theorem ahead_steps (steps : List (String × Nat)) (rest : List Token) :
    ahead (stepTokens steps ++ rest) = steps.map Prod.snd ++ ahead rest := by
  induction steps with
  | nil => rfl
  | cons step steps ih =>
      have one : stepTokens (step :: steps) ++ rest =
          step.1.toList.map .char ++ (.place step.2 :: (stepTokens steps ++ rest)) := by
        simp [stepTokens]
      rw [one, ahead_chars, ahead, ih]
      rfl

theorem references_steps (steps : List (String × Nat)) (rest : List Token) :
    references (stepTokens steps ++ rest) = references rest := by
  induction steps with
  | nil => rfl
  | cons step steps ih =>
      have one : stepTokens (step :: steps) ++ rest =
          step.1.toList.map .char ++ (.place step.2 :: (stepTokens steps ++ rest)) := by
        simp [stepTokens]
      rw [one, references_chars, references, ih]

-- SQL that makes references and leaves no place before the first of them, whatever stands behind
-- it, as long as no place does.
def Reads (fragment : Fragment) (found : List Reference) : Prop :=
  ∀ rest, ahead rest = [] →
    ahead (fragment.tokens ++ rest) = [] ∧
      references (fragment.tokens ++ rest) = found ++ references rest

theorem reads_text (s : String) : Reads [.text s] [] := by
  intro rest settled
  rw [Fragment.tokens_text_cons, Fragment.tokens_nil, List.append_nil]
  exact ⟨(ahead_chars _ rest).trans settled, references_chars _ rest⟩

theorem reads_around (fragment : Fragment) (column : String) (steps : List (String × Nat))
    (before : List Char) (behind : List Token) (places : List Nat)
    (shape : fragment.tokens = before.map .char ++ ((path column steps).tokens ++ behind))
    (known : ∀ step ∈ steps, IsArrow step.1) (parted : Parted behind)
    (compared : ∀ rest, ahead (behind ++ rest) = places ++ ahead rest)
    (nameless : ∀ rest, references (behind ++ rest) = references rest) :
    Reads fragment [⟨column.toList, steps, places⟩] := by
  intro rest settled
  have whole : fragment.tokens ++ rest = before.map .char ++
      (.name column.toList :: (stepTokens steps ++ (behind ++ rest))) := by
    simp [shape, tokens_path]
  have drawn := arrows_steps steps (behind ++ rest) known (parted_append behind rest parted)
  rw [whole, ahead_chars, references_chars, references, drawn, ahead_steps, references_steps,
    compared, nameless, settled]
  refine ⟨rfl, ?_⟩
  simp

theorem reads_append (first second : Fragment) (found others : List Reference)
    (readsFirst : Reads first found) (readsSecond : Reads second others) :
    Reads (first ++ second) (found ++ others) := by
  intro rest settled
  obtain ⟨settledSecond, foundSecond⟩ := readsSecond rest settled
  obtain ⟨settledFirst, foundFirst⟩ := readsFirst _ settledSecond
  rw [Fragment.tokens_append, List.append_assoc, List.append_assoc, ← foundSecond]
  exact ⟨settledFirst, foundFirst⟩

theorem reads_text_cons (s : String) (fragment : Fragment) (found : List Reference)
    (reads : Reads fragment found) : Reads (.text s :: fragment) found :=
  reads_append [.text s] fragment [] found (reads_text s) reads

theorem reads_parenthesized (fragment : Fragment) (found : List Reference)
    (reads : Reads fragment found) : Reads (Fragment.parenthesized fragment) found := by
  have closed := reads_append fragment [.text ")"] found [] reads (reads_text ")")
  rw [List.append_nil] at closed
  exact reads_text_cons "(" _ _ closed

theorem reads_join (separator : String) (fragments : List Fragment) (found : List (List Reference))
    (reads : List.Forall₂ Reads fragments found) :
    Reads (Fragment.join separator fragments) found.flatten := by
  induction reads with
  | nil => exact fun rest settled => ⟨settled, rfl⟩
  | @cons first here fragments others readsFirst more ih =>
      cases more with
      | nil => simpa [Fragment.join] using readsFirst
      | cons second more =>
          exact reads_append first _ here _ readsFirst (reads_text_cons separator _ _ ih)

theorem reads_joined (connective : String) (fragments : List Fragment)
    (found : List (List Reference)) (reads : List.Forall₂ Reads fragments found) :
    Reads (joined connective fragments) found.flatten := by
  have several := reads_parenthesized _ _
    (reads_join (" " ++ connective ++ " ") fragments found reads)
  cases reads with
  | nil => exact several
  | cons first more =>
      cases more with
      | nil => simpa [joined] using first
      | cons _ _ => exact several

end EntitySchema.Sql

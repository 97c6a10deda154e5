import EntitySchema.Proofs.Sql.Lexing

set_option autoImplicit false

namespace EntitySchema.Sql

def behind? (word : String) : List Token → Option (List Token)
  | [] => none
  | token :: rest =>
    if (word.toList.map Token.char).isPrefixOf (token :: rest) then
      some ((token :: rest).drop word.length)
    else behind? word rest

theorem behind_word (word : String) (rest : List Token) (given : word.toList ≠ []) :
    behind? word (word.toList.map .char ++ rest) = some rest := by
  have here : (word.toList.map Token.char).isPrefixOf (word.toList.map .char ++ rest) = true := by
    simp
  have dropped : (word.toList.map Token.char ++ rest).drop word.length = rest :=
    List.drop_left' (by simp [← String.length_toList])
  cases shape : word.toList with
  | nil => exact absurd shape given
  | cons c chars =>
      rw [shape, List.map_cons, List.cons_append] at here dropped
      rw [List.map_cons, List.cons_append, behind?, shape, List.map_cons, if_pos here, dropped]

theorem behind_skip (word : String) (c : Char) (begins : word.toList.head? = some c)
    (read behind : List Token) (without : ∀ token ∈ read, token ≠ .char c) :
    behind? word (read ++ behind) = behind? word behind := by
  obtain ⟨chars, shape⟩ := List.head?_eq_some_iff.mp begins
  induction read with
  | nil => rfl
  | cons token rest ih =>
      have other : token ≠ .char c := without token (by simp)
      have tail := ih fun later member => without later (by simp [member])
      have elsewhere : (word.toList.map Token.char).isPrefixOf (token :: (rest ++ behind)) = false := by
        simp [shape, List.isPrefixOf, Ne.symm other]
      rw [List.cons_append, behind?, if_neg (by simp [elsewhere]), tail]

end EntitySchema.Sql

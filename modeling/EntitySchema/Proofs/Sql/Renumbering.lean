import EntitySchema.Proofs.Sql.Lexing

set_option autoImplicit false

namespace EntitySchema.Sql

namespace Token

def write : Token → List Char
  | .char c => [c]
  | .name identifier =>
    '"' :: (identifier.flatMap fun c => if c = '"' then ['"', '"'] else [c]) ++ ['"']
  | .place index => '$' :: (toString index).toList

def shift (k : Nat) : Token → Token
  | .place index => .place (index + k)
  | other => other

end Token

def write (read : List Token) : String := String.ofList (read.flatMap Token.write)

def renumbered (k : Nat) (sql : String) : String := write ((tokens sql).map (Token.shift k))

def Piece.shift (k : Nat) : Piece → Piece
  | .place index => .place (index + k)
  | other => other

theorem piece_tokens_shift (k : Nat) (piece : Piece) :
    (piece.shift k).tokens = piece.tokens.map (Token.shift k) := by
  cases piece with
  | text s => simp [Piece.shift, Piece.tokens, Token.shift]
  | name identifier => rfl
  | place index => rfl

theorem piece_write (piece : Piece) (clean : piece.Clean) :
    piece.tokens.flatMap Token.write = piece.render.toList := by
  cases piece with
  | text s => simp [Piece.tokens, Piece.render, Token.write, List.flatMap_map]
  | name identifier =>
      have unquoted : (identifier.toList.flatMap fun c => if c = '"' then ['"', '"'] else [c]) =
          identifier.toList := by
        have each : ∀ c ∈ identifier.toList, (if c = '"' then ['"', '"'] else [c]) = [c] := by
          intro c member
          rw [if_neg]
          intro same
          exact clean (same ▸ member)
        rw [List.flatMap_congr each, List.flatMap_singleton']
      rw [render_name]
      simp [Piece.tokens, Token.write, unquoted]
  | place index => simp [Piece.tokens, Token.write, render_place]

namespace Fragment

def shift (k : Nat) (fragment : Fragment) : Fragment := fragment.map (Piece.shift k)

@[simp]
theorem shift_nil (k : Nat) : shift k [] = [] := rfl

@[simp]
theorem shift_text_cons (k : Nat) (s : String) (rest : Fragment) :
    shift k (.text s :: rest) = .text s :: shift k rest := rfl

@[simp]
theorem shift_name_cons (k : Nat) (identifier : String) (rest : Fragment) :
    shift k (.name identifier :: rest) = .name identifier :: shift k rest := rfl

@[simp]
theorem shift_place_cons (k index : Nat) (rest : Fragment) :
    shift k (.place index :: rest) = .place (index + k) :: shift k rest := rfl

@[simp]
theorem shift_append (k : Nat) (left right : Fragment) :
    shift k (left ++ right) = shift k left ++ shift k right := List.map_append

theorem shift_join (k : Nat) (separator : String) :
    ∀ fragments : List Fragment,
      shift k (join separator fragments) = join separator (fragments.map (shift k))
  | [] => rfl
  | [_] => rfl
  | first :: second :: rest => by
      simp [join, shift_join k separator (second :: rest)]

@[simp]
theorem shift_parenthesized (k : Nat) (fragment : Fragment) :
    shift k (parenthesized fragment) = parenthesized (shift k fragment) := by
  simp [parenthesized]

theorem clean_shift (k : Nat) (fragment : Fragment) (clean : ∀ piece ∈ fragment, piece.Clean) :
    ∀ piece ∈ fragment.shift k, piece.Clean := by
  intro piece member
  obtain ⟨original, inFragment, same⟩ := List.mem_map.mp member
  subst same
  cases original with
  | place index => trivial
  | _ => exact clean _ inFragment

theorem tokens_shift (k : Nat) (fragment : Fragment) :
    (fragment.shift k).tokens = fragment.tokens.map (Token.shift k) := by
  induction fragment with
  | nil => rfl
  | cons piece rest ih =>
      have here := piece_tokens_shift k piece
      simp only [tokens, shift, List.map_cons, List.flatMap_cons, List.map_append] at ih ⊢
      rw [here, ih]

theorem write_tokens (fragment : Fragment) (clean : ∀ piece ∈ fragment, piece.Clean) :
    write fragment.tokens = fragment.render := by
  apply String.toList_inj.mp
  induction fragment with
  | nil => rfl
  | cons piece rest ih =>
      have here := piece_write piece (clean piece (by simp))
      have others := ih fun other member => clean other (by simp [member])
      rw [write, String.toList_ofList] at others ⊢
      rw [render_cons, tokens, List.flatMap_cons, List.flatMap_append, here, ← others, tokens]

theorem renumbered_render (k : Nat) (fragment : Fragment) (readable : fragment.Readable) :
    renumbered k fragment.render = (fragment.shift k).render := by
  rw [renumbered, tokens_render fragment readable, ← tokens_shift,
    write_tokens _ (clean_shift k fragment readable.clean)]

end Fragment

example : renumbered 7 "\"a $1\" >= $3 AND $12 = ANY(\"$\")" =
    "\"a $1\" >= $10 AND $19 = ANY(\"$\")" := by decide +kernel

end EntitySchema.Sql

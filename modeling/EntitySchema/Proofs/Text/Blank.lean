import EntitySchema.Text.Blank
import Mathlib.Data.List.DropRight

set_option autoImplicit false

namespace EntitySchema.Blank

structure Bare (text : List Char) : Prop where
  first : ∀ c ∈ text.head?, isBlank c = false
  last : ∀ c ∈ text.getLast?, isBlank c = false

theorem dropWhile_first (text : List Char) (c : Char) (first : c ∈ (text.dropWhile isBlank).head?) :
    isBlank c = false := by
  have dropped := List.head?_dropWhile_not isBlank text
  rw [first] at dropped
  simpa using dropped

theorem dropWhile_self (text : List Char) (bare : ∀ c ∈ text.head?, isBlank c = false) :
    text.dropWhile isBlank = text := by
  cases text with
  | nil => rfl
  | cons c rest => rw [List.dropWhile_cons_of_neg]; simp [bare c rfl]

theorem trimEnd_head (text : List Char) (c : Char) (first : c ∈ (trimEnd text).head?) :
    c ∈ text.head? := by
  have kept : (trimEnd text) <+: text := List.reverse_suffix.mp (by
    rw [trimEnd, List.reverse_reverse]
    exact List.dropWhile_suffix isBlank)
  obtain ⟨rest, whole⟩ := kept
  rw [← whole, List.head?_append, first]
  rfl

theorem bare_trim (text : List Char) : Bare (trimEnd (trimStart text)) where
  first c first := dropWhile_first text c (trimEnd_head (trimStart text) c first)
  last c last := by
    rw [trimEnd, List.getLast?_reverse] at last
    exact dropWhile_first _ c last

theorem trim_of_bare (text : List Char) (bare : Bare text) : trimEnd (trimStart text) = text := by
  have start : trimStart text = text := dropWhile_self text bare.first
  have back : text.reverse.dropWhile isBlank = text.reverse := by
    apply dropWhile_self
    intro c last
    rw [List.head?_reverse] at last
    exact bare.last c last
  rw [start, trimEnd, back, List.reverse_reverse]

theorem trim_eq_iff (text : String) : trim text = text ↔ Bare text.toList := by
  constructor
  · intro same
    have bare := bare_trim text.toList
    rw [← String.toList_ofList (l := trimEnd (trimStart text.toList))] at bare
    exact same ▸ bare
  · intro bare
    rw [trim, trim_of_bare text.toList bare, String.ofList_toList]

theorem trim_trim (text : String) : trim (trim text) = trim text := by
  rw [trim_eq_iff, trim, String.toList_ofList]
  exact bare_trim text.toList

theorem bare_of_all (text : List Char) (bare : ∀ c ∈ text, isBlank c = false) : Bare text where
  first c first := bare c (List.mem_of_mem_head? first)
  last c last := bare c (List.mem_of_mem_getLast? last)

theorem visible_bare (c : Char) (low : 0x20 < c.toNat) (high : c.toNat < 0x85) : isBlank c = false := by
  simp only [isBlank, CharTable.has, table, inRun, List.any_cons, List.any_nil, Bool.or_false,
    Bool.or_eq_false_iff, Bool.and_eq_false_iff, decide_eq_false_iff_not]
  omega

theorem digit_bare (c : Char) (digit : c.isDigit = true) : isBlank c = false := by
  rw [Char.isDigit, Bool.and_eq_true, decide_eq_true_eq, decide_eq_true_eq] at digit
  have low : 0x30 ≤ c.toNat := digit.1
  have high : c.toNat ≤ 0x39 := digit.2
  exact visible_bare c (by omega) (by omega)

end EntitySchema.Blank

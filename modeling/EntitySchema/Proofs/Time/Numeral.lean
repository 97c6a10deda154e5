import EntitySchema.Proofs.Text.Blank
import EntitySchema.Time.Reader

set_option autoImplicit false

namespace EntitySchema

def signs : List (List Char) := [[], ['-'], ['+']]

inductive Dashed : List Char → Prop where
  | year (sign digits rest : List Char) (signed : sign ∈ signs) (given : digits ≠ [])
      (numeric : ∀ c ∈ digits, c.isDigit = true) : Dashed (sign ++ digits ++ '-' :: rest)

namespace Instant

theorem number_prefix (low high n : Nat) (text rest : List Char)
    (read : number low high text = some (n, rest)) :
    ∃ digits, text = digits ++ rest ∧ (∀ c ∈ digits, c.isDigit = true) ∧ low ≤ digits.length := by
  have first := (List.takeWhile_prefix Char.isDigit).trans (List.take_prefix high text)
  simp only [number] at read
  split at read
  case isTrue enough =>
    cases read
    exact ⟨_, (List.prefix_iff_eq_append.mp first).symm, fun c => List.mem_takeWhile_imp, enough⟩
  case isFalse => cases read

theorem mark_prefix (c : Char) (text rest : List Char) (u : Unit)
    (read : mark c text = some (u, rest)) : text = c :: rest := by
  unfold mark at read
  split at read
  · split at read
    case isTrue same => cases read; rw [same]
    case isFalse => cases read
  · cases read

theorem signedYear_number (year : Int) (text rest : List Char)
    (read : signedYear text = some (year, rest)) :
    ∃ sign high after n, sign ∈ signs ∧ text = sign ++ after ∧ number 1 high after = some (n, rest) := by
  unfold signedYear at read
  split at read <;> obtain ⟨⟨n, _⟩, numeral, same⟩ := Option.map_eq_some_iff.mp read <;> cases same
  · exact ⟨['-'], _, _, n, by decide, rfl, numeral⟩
  · exact ⟨['+'], _, _, n, by decide, rfl, numeral⟩
  · exact ⟨[], _, _, n, by decide, rfl, numeral⟩

theorem dashed_of_number (sign : List Char) (signed : sign ∈ signs) (low high n : Nat)
    (text rest last : List Char) (u : Unit) (enough : 0 < low)
    (numeral : number low high text = some (n, rest)) (hyphen : mark '-' rest = some (u, last)) :
    Dashed (sign ++ text) := by
  obtain ⟨digits, whole, numeric, many⟩ := number_prefix low high n text rest numeral
  have given := List.ne_nil_of_length_pos (Nat.lt_of_lt_of_le enough many)
  rw [whole, mark_prefix '-' rest last u hyphen, ← List.append_assoc]
  exact .year sign digits last signed given numeric

theorem ofRfc3339_dashed (s : String) (t : Instant) (read : ofRfc3339? s = some t) :
    Dashed s.toList := by
  obtain ⟨⟨year, text⟩, numeral, read⟩ := Option.bind_eq_some_iff.mp read
  obtain ⟨⟨u, rest⟩, hyphen, _⟩ := Option.bind_eq_some_iff.mp read
  exact dashed_of_number [] (by decide) 4 4 year _ text rest u (by decide) numeral hyphen

theorem ofPlainDate_dashed (s : String) (t : Instant) (read : ofPlainDate? s = some t) :
    Dashed (Blank.trimStart s.toList) := by
  obtain ⟨⟨year, text⟩, numeral, read⟩ := Option.bind_eq_some_iff.mp read
  obtain ⟨⟨u, rest⟩, hyphen, _⟩ := Option.bind_eq_some_iff.mp read
  obtain ⟨sign, high, after, n, signed, whole, numeral⟩ := signedYear_number year _ text numeral
  exact whole ▸ dashed_of_number sign signed 1 high n after text rest u (by decide) numeral hyphen

end Instant

theorem splitSign_signed (digits rest : List Char) (sign : List Char) (signed : sign ∈ signs)
    (given : digits ≠ []) (numeric : ∀ c ∈ digits, c.isDigit = true) :
    (splitSign (sign ++ digits ++ rest)).2 = digits ++ rest := by
  obtain ⟨digit, others, rfl⟩ := List.exists_cons_of_ne_nil given
  simp only [signs, List.mem_cons, List.not_mem_nil, or_false] at signed
  rcases signed with rfl | rfl | rfl
  · have plain := numeric digit (by simp)
    simp only [List.nil_append, List.cons_append, splitSign]
    split
    case _ same => cases same; cases plain
    case _ same => cases same; cases plain
    · rfl
  · rfl
  · rfl

namespace Dashed

theorem trimStart (text : List Char) (dashed : Dashed text) : Blank.trimStart text = text := by
  obtain ⟨sign, digits, rest, signed, given, numeric⟩ := dashed
  refine Blank.dropWhile_self _ ?_
  obtain ⟨digit, others, rfl⟩ := List.exists_cons_of_ne_nil given
  have bare := Blank.digit_bare digit (numeric digit (by simp))
  simp only [signs, List.mem_cons, List.not_mem_nil, or_false] at signed
  rcases signed with rfl | rfl | rfl
  · simpa using bare
  · simpa using Blank.visible_bare '-' (by decide) (by decide)
  · simpa using Blank.visible_bare '+' (by decide) (by decide)

theorem trimEnd (text : List Char) (dashed : Dashed text) : Dashed (Blank.trimEnd text) := by
  obtain ⟨sign, digits, rest, signed, given, numeric⟩ := dashed
  have hyphen : Blank.isBlank '-' = false := Blank.visible_bare '-' (by decide) (by decide)
  have kept : Blank.trimEnd (sign ++ digits ++ '-' :: rest) =
      sign ++ digits ++ '-' :: Blank.trimEnd rest := by
    simp only [Blank.trimEnd, List.reverse_append, List.reverse_cons, List.append_assoc,
      List.dropWhile_append, List.dropWhile_cons, hyphen]
    split
    case isTrue none => simp [List.isEmpty_iff.mp none]
    case isFalse => simp
  exact kept ▸ .year sign digits _ signed given numeric

theorem readNumber (text : List Char) (dashed : Dashed text) :
    readNumber? (String.ofList text) = none := by
  obtain ⟨sign, digits, rest, signed, given, numeric⟩ := dashed
  have body := splitSign_signed digits ('-' :: rest) sign signed given numeric
  have run : (digits ++ '-' :: rest).takeWhile Char.isDigit = digits := by
    rw [List.takeWhile_append_of_pos numeric]
    simp
  have behind : (digits ++ '-' :: rest).dropWhile Char.isDigit = '-' :: rest := by
    rw [List.dropWhile_append_of_pos numeric]
    simp
  simp only [readNumber?, String.toList_ofList, body, run, behind, given, false_and, if_false,
    readExponent?]
  rfl

end Dashed

theorem parse_dashed (s : String) (t : Instant) (read : Instant.parse? s = some t) :
    Dashed (Blank.trimStart s.toList) := by
  unfold Instant.parse? at read
  cases whole : Instant.ofRfc3339? s with
  | some t =>
      have dashed := Instant.ofRfc3339_dashed s t whole
      rwa [dashed.trimStart]
  | none =>
      rw [whole] at read
      exact Instant.ofPlainDate_dashed s t read

theorem date_apart (s : String) (x : Binary64) (numeral : readNumber? (Blank.trim s) = some x) :
    Instant.parse? s = none := by
  by_contra dated
  obtain ⟨t, read⟩ := Option.ne_none_iff_exists'.mp dated
  have dashed := (parse_dashed s t read).trimEnd
  rw [Blank.trim, dashed.readNumber] at numeral
  cases numeral

end EntitySchema

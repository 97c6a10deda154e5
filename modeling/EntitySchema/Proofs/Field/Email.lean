import EntitySchema.Proofs.Field.Whole
import EntitySchema.Proofs.Record.Normalizer
import Mathlib.Computability.RegularExpressions

set_option autoImplicit false

namespace EntitySchema.Format

def marks : List Char := ".!#$%&'*+/=?^_`\x7b|\x7d~-".toList

structure Label (label : List Char) : Prop where
  few : 1 ≤ label.length ∧ label.length ≤ 63
  plain : ∀ c ∈ label, c.isAlphanum = true ∨ c = '-'
  first : ∃ c ∈ label.head?, c.isAlphanum = true
  last : ∃ c ∈ label.getLast?, c.isAlphanum = true

structure Address (text mailbox : List Char) (labels : List (List Char)) : Prop where
  parts : text = mailbox ++ '@' :: ['.'].intercalate labels
  given : mailbox ≠ []
  marked : ∀ c ∈ mailbox, c.isAlphanum = true ∨ c ∈ marks
  several : 2 ≤ labels.length
  labelled : ∀ label ∈ labels, Label label

theorem isLabel_iff (label : List Char) : isLabel label = true ↔ Label label := by
  simp only [isLabel, Bool.and_eq_true, decide_eq_true_eq, List.all_eq_true, Bool.or_eq_true,
    Option.any_eq_true]
  constructor
  · rintro ⟨⟨⟨short, plain⟩, first⟩, last⟩
    have nonempty : label ≠ [] := by
      rintro rfl
      obtain ⟨c, begun, _⟩ := first
      cases begun
    exact ⟨⟨List.length_pos_of_ne_nil nonempty, short⟩, plain, first, last⟩
  · rintro ⟨⟨-, short⟩, plain, first, last⟩
    exact ⟨⟨⟨short, plain⟩, first⟩, last⟩

theorem isLocalChar_iff (c : Char) : isLocalChar c = true ↔ c.isAlphanum = true ∨ c ∈ marks := by
  have test : isLocalChar c = (c.isAlphanum || marks.contains c) := rfl
  rw [test, Bool.or_eq_true, List.contains_iff_mem]

theorem label_without (label : List Char) (shaped : Label label) : '.' ∉ label := by
  intro member
  rcases shaped.plain '.' member with letter | hyphen
  · exact absurd letter (by decide)
  · exact absurd hyphen (by decide)

-- The at sign is none of the characters of a mailbox, and a dot none of those of a label, so that each
-- part ends where it is cut.
theorem mailbox_taken (mailbox rest : List Char)
    (marked : ∀ c ∈ mailbox, c.isAlphanum = true ∨ c ∈ marks) :
    (mailbox ++ '@' :: rest).takeWhile isLocalChar = mailbox := by
  have sign : isLocalChar '@' = false := by decide
  rw [List.takeWhile_append_of_pos fun c member => (isLocalChar_iff c).mpr (marked c member),
    List.takeWhile_cons_of_neg (by simp [sign]), List.append_nil]

theorem address_cut (text : List Char) (sign : text[(text.takeWhile isLocalChar).length]? = some '@') :
    text = text.takeWhile isLocalChar ++ '@' :: text.drop ((text.takeWhile isLocalChar).length + 1) := by
  obtain ⟨short, here⟩ := List.getElem?_eq_some_iff.mp sign
  have whole := List.take_append_drop (text.takeWhile isLocalChar).length text
  rw [List.drop_eq_getElem_cons short, here] at whole
  rw [← List.prefix_iff_eq_take.mp (List.takeWhile_prefix isLocalChar)] at whole
  exact whole.symm

theorem isEmail_address (s : String) :
    isEmail s = true ↔ s.utf8ByteSize ≤ 254 ∧ ∃ mailbox labels, Address s.toList mailbox labels := by
  simp only [isEmail, Bool.and_eq_true, decide_eq_true_eq, Bool.not_eq_true', List.all_eq_true,
    isLabel_iff, beq_iff_eq, splitOn_eq]
  constructor
  · rintro ⟨⟨⟨⟨short, given⟩, sign⟩, several⟩, labelled⟩
    refine ⟨short, s.toList.takeWhile isLocalChar, _, ?_, by simpa using given, ?_, several, labelled⟩
    · rw [List.intercalate_splitOn]
      exact address_cut s.toList sign
    · exact fun c member => (isLocalChar_iff c).mp (List.mem_takeWhile_imp member)
  · rintro ⟨short, mailbox, labels, parts, given, marked, several, labelled⟩
    have taken := mailbox_taken mailbox (['.'].intercalate labels) marked
    have listed : labels ≠ [] := by
      rintro rfl
      exact absurd several (by decide)
    have split := List.splitOn_intercalate '.' (fun l member => label_without l (labelled l member)) listed
    have sign : (mailbox ++ '@' :: ['.'].intercalate labels)[mailbox.length]? = some '@' := by
      rw [List.getElem?_append_right (Nat.le_refl _), Nat.sub_self, List.getElem?_cons_zero]
    rw [parts, taken, List.drop_length_add_append, List.drop_succ_cons, List.drop_zero, split]
    exact ⟨⟨⟨⟨short, by simpa using given⟩, sign⟩, several⟩, labelled⟩

end EntitySchema.Format

namespace EntitySchema.Expression

open RegularExpression

def oneOf : List Char → RegularExpression Char
  | [] => 0
  | c :: rest => char c + oneOf rest

def optional (p : RegularExpression Char) : RegularExpression Char := 1 + p

def upTo (most : Nat) (p : RegularExpression Char) : RegularExpression Char := optional p ^ most

def repeated (p : RegularExpression Char) : RegularExpression Char := p * star p

theorem mem_char (c : Char) (text : List Char) : text ∈ (char c).matches' ↔ text = [c] := Iff.rfl

theorem mem_oneOf (chars : List Char) (text : List Char) :
    text ∈ (oneOf chars).matches' ↔ ∃ c ∈ chars, text = [c] := by
  induction chars with
  | nil => simp [oneOf, matches'_zero, Language.notMem_zero]
  | cons first rest ih =>
      rw [oneOf, matches'_add, Language.mem_add, ih, mem_char]
      simp only [List.mem_cons, exists_eq_or_imp]

theorem mem_optional (p : RegularExpression Char) (text : List Char) :
    text ∈ (optional p).matches' ↔ text = [] ∨ text ∈ p.matches' := by
  rw [optional, matches'_add, Language.mem_add, matches'_epsilon, Language.mem_one]

-- By induction on how many there may be: the last is one of the characters or is not there.
theorem mem_upTo (most : Nat) (chars text : List Char) :
    text ∈ (upTo most (oneOf chars)).matches' ↔ text.length ≤ most ∧ ∀ c ∈ text, c ∈ chars := by
  rw [upTo, matches'_pow]
  induction most generalizing text with
  | zero => simp +contextual [Language.mem_one]
  | succ most ih =>
      simp only [pow_succ, Language.mem_mul, ih, mem_optional, mem_oneOf]
      constructor
      · rintro ⟨front, ⟨short, listed⟩, last, nothing | ⟨c, member, one⟩, rfl⟩
        · subst nothing
          rw [List.append_nil]
          exact ⟨Nat.le_succ_of_le short, listed⟩
        · subst one
          refine ⟨by simpa using short, fun d within => ?_⟩
          rcases List.mem_append.mp within with before | here
          · exact listed d before
          · exact List.mem_singleton.mp here ▸ member
      · rintro ⟨short, listed⟩
        rcases List.eq_nil_or_concat' text with rfl | ⟨front, c, rfl⟩
        · exact ⟨[], ⟨Nat.zero_le _, nofun⟩, [], .inl rfl, rfl⟩
        · refine ⟨front, ⟨by simpa using short, fun d within => ?_⟩, [c], .inr ⟨c, ?_, rfl⟩, rfl⟩
          · exact listed d (List.mem_append_left _ within)
          · exact listed c (by simp)

theorem mem_repeated (p : RegularExpression Char) (text : List Char) :
    text ∈ (repeated p).matches' ↔
      ∃ parts, parts ≠ [] ∧ text = parts.flatten ∧ ∀ part ∈ parts, part ∈ p.matches' := by
  simp only [repeated, matches'_mul, matches'_star, Language.mem_mul, Language.mem_kstar]
  constructor
  · rintro ⟨first, begun, _, ⟨rest, rfl, each⟩, rfl⟩
    exact ⟨first :: rest, by simp, rfl, List.forall_mem_cons.mpr ⟨begun, each⟩⟩
  · rintro ⟨parts, given, rfl, each⟩
    obtain ⟨first, rest, rfl⟩ := List.exists_cons_of_ne_nil given
    obtain ⟨begun, each⟩ := List.forall_mem_cons.mp each
    exact ⟨first, begun, rest.flatten, ⟨rest, rfl, each⟩, rfl⟩

theorem mem_repeated_oneOf (chars text : List Char) :
    text ∈ (repeated (oneOf chars)).matches' ↔ text ≠ [] ∧ ∀ c ∈ text, c ∈ chars := by
  simp only [mem_repeated, mem_oneOf]
  constructor
  · rintro ⟨parts, given, rfl, each⟩
    constructor
    · obtain ⟨first, rest, rfl⟩ := List.exists_cons_of_ne_nil given
      obtain ⟨c, _, rfl⟩ := each first List.mem_cons_self
      simp
    · intro c within
      obtain ⟨part, member, inside⟩ := List.mem_flatten.mp within
      obtain ⟨d, listed, rfl⟩ := each part member
      exact List.mem_singleton.mp inside ▸ listed
  · rintro ⟨given, listed⟩
    refine ⟨text.map fun c => [c], by simpa using given, (List.flatMap_singleton' text).symm, ?_⟩
    intro part member
    obtain ⟨c, within, rfl⟩ := List.mem_map.mp member
    exact ⟨c, listed c within, rfl⟩

end EntitySchema.Expression

namespace EntitySchema.Format

open RegularExpression Expression

def alphanumerics : List Char :=
  "ABCDEFGHIJKLMNOPQRSTUVWXYZabcdefghijklmnopqrstuvwxyz0123456789".toList

def labelPattern : RegularExpression Char :=
  oneOf alphanumerics * optional (upTo 61 (oneOf (alphanumerics ++ ['-'])) * oneOf alphanumerics)

def addressPattern : RegularExpression Char :=
  repeated (oneOf (alphanumerics ++ marks)) * char '@' * labelPattern *
    repeated (char '.' * labelPattern)

theorem mem_alphanumerics (c : Char) : c ∈ alphanumerics ↔ c.isAlphanum = true := by
  constructor
  · have each : alphanumerics.all Char.isAlphanum = true := by decide
    exact List.all_eq_true.mp each c
  · intro letter
    exact ascii_forall (fun c => c.isAlphanum = true → c ∈ alphanumerics) (by decide +kernel) c
      (Normalizer.alphanum_small c letter) letter

theorem mem_labelPattern (text : List Char) : text ∈ labelPattern.matches' ↔ Label text := by
  simp only [labelPattern, matches'_mul, Language.mem_mul, mem_optional, mem_oneOf, mem_upTo,
    mem_alphanumerics, List.mem_append, List.mem_singleton]
  constructor
  · rintro ⟨_, ⟨c, letter, rfl⟩, _, rfl | ⟨between, ⟨short, plain⟩, _, ⟨d, last, rfl⟩, rfl⟩, rfl⟩
    · exact ⟨by simp, by simp [letter], ⟨c, rfl, letter⟩, ⟨c, rfl, letter⟩⟩
    · refine ⟨⟨by simp, ?_⟩, ?_, ⟨c, rfl, letter⟩, ⟨d, ?_, last⟩⟩
      · simp only [List.length_append, List.length_singleton]
        omega
      · intro e member
        simp only [List.cons_append, List.nil_append, List.mem_cons, List.mem_append, List.not_mem_nil,
          or_false] at member
        rcases member with rfl | within | rfl
        · exact .inl letter
        · exact plain e within
        · exact .inl last
      · rw [← List.append_assoc, List.getLast?_concat]
        rfl
  · rintro ⟨⟨-, short⟩, plain, ⟨c, begun, letter⟩, ⟨d, ended, last⟩⟩
    obtain ⟨rest, rfl⟩ := List.head?_eq_some_iff.mp begun
    refine ⟨[c], ⟨c, letter, rfl⟩, rest, ?_, rfl⟩
    rcases List.eq_nil_or_concat' rest with rfl | ⟨between, e, rfl⟩
    · exact .inl rfl
    · rw [← List.cons_append, List.getLast?_concat] at ended
      obtain rfl : e = d := Option.some.inj ended
      refine .inr ⟨between, ⟨?_, fun f within => plain f ?_⟩, [e], ⟨e, last, rfl⟩, rfl⟩
      · simp only [List.length_cons, List.length_append, List.length_nil] at short
        omega
      · simp [within]

theorem mem_furtherLabels (text : List Char) :
    text ∈ (repeated (char '.' * labelPattern)).matches' ↔
      ∃ labels, labels ≠ [] ∧ text = (labels.map ('.' :: ·)).flatten ∧ ∀ label ∈ labels, Label label := by
  simp only [mem_repeated, matches'_mul, Language.mem_mul, mem_char, mem_labelPattern]
  constructor
  · rintro ⟨parts, given, rfl, each⟩
    have dotted : (parts.map List.tail).map ('.' :: ·) = parts := by
      conv_rhs => rw [← List.map_id parts]
      rw [List.map_map]
      refine List.map_congr_left fun part member => ?_
      obtain ⟨_, rfl, label, _, rfl⟩ := each part member
      rfl
    refine ⟨parts.map List.tail, by simpa using given, by rw [dotted], ?_⟩
    intro label member
    obtain ⟨part, within, rfl⟩ := List.mem_map.mp member
    obtain ⟨_, rfl, label, shaped, rfl⟩ := each part within
    exact shaped
  · rintro ⟨labels, given, rfl, each⟩
    refine ⟨labels.map ('.' :: ·), by simpa using given, rfl, ?_⟩
    intro part member
    obtain ⟨label, within, rfl⟩ := List.mem_map.mp member
    exact ⟨['.'], rfl, label, each label within, rfl⟩

theorem intercalate_dots (first : List Char) (others : List (List Char)) :
    ['.'].intercalate (first :: others) = first ++ (others.map ('.' :: ·)).flatten := by
  induction others generalizing first with
  | nil => simp
  | cons next rest ih =>
      rw [List.intercalate_cons_cons, ih]
      simp

theorem mem_addressPattern (text : List Char) :
    text ∈ addressPattern.matches' ↔ ∃ mailbox labels, Address text mailbox labels := by
  rw [addressPattern]
  simp only [matches'_mul, Language.mem_mul, mem_repeated_oneOf, mem_furtherLabels, mem_char,
    mem_labelPattern, mem_alphanumerics, List.mem_append]
  constructor
  · rintro ⟨_, ⟨_, ⟨mailbox, ⟨given, marked⟩, _, rfl, rfl⟩, first, shaped, rfl⟩, _,
      ⟨others, several, rfl, each⟩, rfl⟩
    have more := List.length_pos_of_ne_nil several
    refine ⟨mailbox, first :: others, ?_, given, marked, Nat.succ_le_succ more,
      List.forall_mem_cons.mpr ⟨shaped, each⟩⟩
    simp [intercalate_dots]
  · rintro ⟨mailbox, labels, parts, given, marked, several, each⟩
    match labels with
    | first :: second :: others =>
        obtain ⟨shaped, each⟩ := List.forall_mem_cons.mp each
        rw [intercalate_dots] at parts
        exact ⟨_, ⟨_, ⟨mailbox, ⟨given, marked⟩, _, rfl, rfl⟩, first, shaped, rfl⟩, _,
          ⟨second :: others, by simp, rfl, each⟩, by simp [parts]⟩

end EntitySchema.Format

namespace EntitySchema

theorem email_grammar (s : String) (bounds : Bounds) (strict : Bool) :
    (Check.email (.string s) bounds strict = .ok () ↔
      s.utf8ByteSize ≤ 254 ∧ ∃ mailbox labels, Format.Address s.toList mailbox labels) ∧
    (Check.email (.string s) bounds strict = .ok () ↔
      s.utf8ByteSize ≤ 254 ∧ s.toList ∈ Format.addressPattern.matches') := by
  have checked : Check.email (.string s) bounds strict = .ok () ↔ Format.isEmail s = true :=
    Check.formatted_iff "email" (.string s) (Format.isEmail s)
  rw [checked, Format.mem_addressPattern, Format.isEmail_address]
  exact ⟨Iff.rfl, Iff.rfl⟩

example : Format.isEmail "a@b.c" = true ∧ Format.isEmail "a@b.c\n" = false ∧
    Format.isEmail "a@b.c-" = false := by
  decide +kernel

end EntitySchema

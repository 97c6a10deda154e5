import EntitySchema.Proofs.Text.Blank
import EntitySchema.Proofs.Text.CharTable
import EntitySchema.Text.LetterCase

/-!
# Case mapping done twice

What a character is mapped to is mapped to itself, and is no blank unless the character is one. That
holds of the tables, which are compared as sets, and from there of texts.
-/

set_option autoImplicit false

namespace EntitySchema.LetterCase

def lowerDomain : CharTable := (0x130, 0x130, 1) :: lowerShift.domain

def sequenceDomain : CharTable := upperSequences.map fun (code, _) => (code, code, 1)

def sequenceRange : CharTable :=
  upperSequences.flatMap fun (_, codes) => codes.map fun code => (code, code, 1)

def upperDomain : CharTable := sequenceDomain ++ upperShift.domain

def ascii : CharTable := [(0, 0x7F, 1)]

theorem ascii_has (c : Char) (small : c.toNat < 128) : ascii.has c = true := by
  simp only [ascii, CharTable.has, inRun, List.any_cons, List.any_nil, Bool.or_false, Bool.and_eq_true,
    decide_eq_true_eq]
  omega

theorem shift_ascii (f : Char → Char) (run : Nat × Nat × Nat × Nat) (rest : CharShift)
    (beyond : ascii.apart rest.domain = true)
    (letters : ∀ n < 128, f (Char.ofNat n) = (CharShift.image? [run] (Char.ofNat n)).getD (Char.ofNat n))
    (c : Char) (small : c.toNat < 128) : f c = (CharShift.image? (run :: rest) c).getD c := by
  rw [CharShift.image_first run rest c (ascii.outside_of_apart _ beyond c (ascii_has c small))]
  exact ascii_forall (fun c => f c = (CharShift.image? [run] c).getD c) letters c small

theorem toLower_shift (c : Char) (small : c.toNat < 128) : c.toLower = (lowerShift.image? c).getD c :=
  shift_ascii Char.toLower (0x41, 0x5A, 1, 0x61) lowerShift.tail (by decide +kernel) (by decide +kernel) c small

theorem toUpper_shift (c : Char) (small : c.toNat < 128) : c.toUpper = (upperShift.image? c).getD c :=
  shift_ascii Char.toUpper (0x61, 0x7A, 1, 0x41) upperShift.tail (by decide +kernel) (by decide +kernel) c small

theorem lower_apart :
    lowerShift.rangeApart lowerDomain = true ∧ lowerShift.rangeApart Blank.table = true := by
  decide +kernel

theorem upper_apart :
    upperShift.rangeApart upperDomain = true ∧ upperShift.rangeApart Blank.table = true ∧
      sequenceRange.apart upperDomain = true ∧ sequenceRange.apart Blank.table = true ∧
      ascii.apart sequenceDomain = true := by
  decide +kernel

theorem lower_singular :
    ['i', Char.ofNat 0x307, Char.ofNat 0x3C2, Char.ofNat 0x3C3].any lowerDomain.has = false ∧
      lowerDomain.has (Char.ofNat 0x3A3) = true := by
  decide +kernel

theorem lowerChar_shift (c : Char) (plain : c.toNat ≠ 0x130) :
    lowerChar c = [(lowerShift.image? c).getD c] := by
  by_cases small : c.toNat < 128
  · rw [lowerChar, if_pos small, toLower_shift c small]
  · rw [lowerChar, if_neg small, if_neg plain]

theorem sequence_none_iff (c : Char) :
    upperSequences.lookup c.toNat = none ↔ sequenceDomain.has c = false := by
  rw [List.lookup_eq_none_iff, CharTable.has, List.any_eq_false, sequenceDomain, List.forall_mem_map]
  refine forall₂_congr fun entry _ => ?_
  simp only [inRun, Nat.mod_one, decide_true, Bool.and_true, Bool.and_eq_true, decide_eq_true_eq, bne_iff_ne]
  omega

theorem sequence_range (n : Nat) (codes : List Nat) (found : upperSequences.lookup n = some codes) :
    codes ≠ [] ∧ ∀ code ∈ codes, sequenceRange.has (Char.ofNat code) = true := by
  have checked : upperSequences.all (fun (_, codes) =>
      !codes.isEmpty && codes.all fun code => decide code.isValidChar) = true := by decide +kernel
  obtain ⟨before, after, whole, _⟩ := List.lookup_eq_some_iff.mp found
  have listed : (n, codes) ∈ upperSequences := by simp [whole]
  have here := List.all_eq_true.mp checked (n, codes) listed
  rw [Bool.and_eq_true, List.all_eq_true] at here
  refine ⟨by simpa using here.1, ?_⟩
  intro code member
  have valid := of_decide_eq_true (here.2 code member)
  apply List.any_eq_true.mpr
  refine ⟨(code, code, 1), List.mem_flatMap.mpr ⟨_, listed, List.mem_map.mpr ⟨code, member, rfl⟩⟩, ?_⟩
  simp [inRun, toNat_ofNat code valid]

theorem upperChar_cases (c : Char) :
    (∃ codes, upperSequences.lookup c.toNat = some codes ∧ upperChar c = codes.map Char.ofNat) ∨
      (sequenceDomain.has c = false ∧ upperChar c = [(upperShift.image? c).getD c]) := by
  by_cases small : c.toNat < 128
  · have beyond := ascii.outside_of_apart sequenceDomain upper_apart.2.2.2.2 c (ascii_has c small)
    refine .inr ⟨beyond, ?_⟩
    rw [upperChar, if_pos small, toUpper_shift c small]
  · rw [upperChar, if_neg small]
    cases found : upperSequences.lookup c.toNat with
    | some codes => exact .inl ⟨codes, rfl, rfl⟩
    | none => exact .inr ⟨(sequence_none_iff c).mp found, rfl⟩

theorem lowerChar_outside (c : Char) (outside : lowerDomain.has c = false) : lowerChar c = [c] := by
  obtain ⟨plain, unshifted⟩ := Bool.or_eq_false_iff.mp outside
  have other : c.toNat ≠ 0x130 := by
    intro dotted
    simp [inRun, dotted] at plain
  rw [lowerChar_shift c other, (CharShift.image_none_iff lowerShift c).mpr unshifted, Option.getD_none]

theorem upperChar_outside (c : Char) (outside : upperDomain.has c = false) : upperChar c = [c] := by
  rw [upperDomain, CharTable.has, List.any_append, Bool.or_eq_false_iff] at outside
  rcases upperChar_cases c with ⟨codes, found, _⟩ | ⟨_, shifted⟩
  · rw [(sequence_none_iff c).mpr outside.1] at found
    cases found
  · rw [shifted, (CharShift.image_none_iff upperShift c).mpr outside.2, Option.getD_none]

theorem shifted_outside (table : CharShift) (other : CharTable) (apart : table.rangeApart other = true)
    (c : Char) (kept : table.image? c = none → other.has c = false) :
    other.has ((table.image? c).getD c) = false := by
  cases mapped : table.image? c with
  | none => exact kept mapped
  | some d => exact table.image_outside other apart c d mapped

theorem lowerChar_image (c d : Char) (member : d ∈ lowerChar c) : lowerDomain.has d = false := by
  by_cases dotted : c.toNat = 0x130
  · rw [lowerChar, if_neg (by omega), if_pos dotted] at member
    exact Bool.eq_false_iff.mpr (List.any_eq_false.mp lower_singular.1 d (List.mem_of_mem_take (i := 2) member))
  · rw [lowerChar_shift c dotted, List.mem_singleton] at member
    rw [member]
    apply shifted_outside lowerShift lowerDomain lower_apart.1
    intro kept
    have plain : inRun c.toNat 0x130 0x130 1 = false := by
      simp [inRun]
      omega
    exact Bool.or_eq_false_iff.mpr ⟨plain, (CharShift.image_none_iff lowerShift c).mp kept⟩

theorem lowerChar_bare (c d : Char) (bare : Blank.isBlank c = false) (member : d ∈ lowerChar c) :
    Blank.isBlank d = false := by
  by_cases dotted : c.toNat = 0x130
  · rw [lowerChar, if_neg (by omega), if_pos dotted] at member
    rcases List.mem_pair.mp member with rfl | rfl <;> decide
  · rw [lowerChar_shift c dotted, List.mem_singleton] at member
    rw [member]
    exact shifted_outside lowerShift Blank.table lower_apart.2 c fun _ => bare

theorem upperChar_image (c d : Char) (member : d ∈ upperChar c) : upperDomain.has d = false := by
  rcases upperChar_cases c with ⟨codes, found, mapped⟩ | ⟨plain, shifted⟩
  · rw [mapped] at member
    obtain ⟨code, listed, rfl⟩ := List.mem_map.mp member
    exact sequenceRange.outside_of_apart upperDomain upper_apart.2.2.1 _
      ((sequence_range _ codes found).2 code listed)
  · rw [shifted, List.mem_singleton] at member
    rw [member]
    apply shifted_outside upperShift upperDomain upper_apart.1
    intro kept
    rw [upperDomain, CharTable.has, List.any_append, Bool.or_eq_false_iff]
    exact ⟨plain, (CharShift.image_none_iff upperShift c).mp kept⟩

theorem upperChar_bare (c d : Char) (bare : Blank.isBlank c = false) (member : d ∈ upperChar c) :
    Blank.isBlank d = false := by
  rcases upperChar_cases c with ⟨codes, found, mapped⟩ | ⟨plain, shifted⟩
  · rw [mapped] at member
    obtain ⟨code, listed, rfl⟩ := List.mem_map.mp member
    exact sequenceRange.outside_of_apart Blank.table upper_apart.2.2.2.1 _
      ((sequence_range _ codes found).2 code listed)
  · rw [shifted, List.mem_singleton] at member
    rw [member]
    exact shifted_outside upperShift Blank.table upper_apart.2.1 c fun _ => bare

theorem lowerChar_ne_nil (c : Char) : lowerChar c ≠ [] := by
  rw [lowerChar]
  split
  · exact List.cons_ne_nil _ _
  · split <;> exact List.cons_ne_nil _ _

theorem upperChar_ne_nil (c : Char) : upperChar c ≠ [] := by
  rcases upperChar_cases c with ⟨codes, found, mapped⟩ | ⟨_, shifted⟩
  · rw [mapped]
    simpa using (sequence_range _ codes found).1
  · rw [shifted]
    exact List.cons_ne_nil _ _

theorem lowerChar_twice (c d : Char) (member : d ∈ lowerChar c) : lowerChar d = [d] :=
  lowerChar_outside d (lowerChar_image c d member)

theorem upperChar_twice (c d : Char) (member : d ∈ upperChar c) : upperChar d = [d] :=
  upperChar_outside d (upperChar_image c d member)

theorem lowerFrom_outside (text before : List Char) (outside : ∀ c ∈ text, lowerDomain.has c = false) :
    lowerFrom before text = text := by
  induction text generalizing before with
  | nil => rfl
  | cons c rest ih =>
      have first := outside c List.mem_cons_self
      have sigma : c.toNat ≠ 0x3A3 := by
        intro sigma
        have same : c = Char.ofNat 0x3A3 := by rw [← sigma, Char.ofNat_toNat]
        rw [same, lower_singular.2] at first
        cases first
      rw [lowerFrom, if_neg sigma, lowerChar_outside c first,
        ih (c :: before) fun d later => outside d (List.mem_cons_of_mem _ later)]
      rfl

theorem lowerFrom_image (text before : List Char) (d : Char) (member : d ∈ lowerFrom before text) :
    lowerDomain.has d = false := by
  induction text generalizing before with
  | nil => cases member
  | cons c rest ih =>
      rcases List.mem_append.mp member with here | later
      · split at here
        · apply Bool.eq_false_iff.mpr (List.any_eq_false.mp lower_singular.1 d ?_)
          split at here <;> simp [List.mem_singleton.mp here]
        · exact lowerChar_image c d here
      · exact ih (c :: before) later

theorem lower_lower (text : String) : lower (lower text) = lower text := by
  rw [lower, lower, String.toList_ofList,
    lowerFrom_outside _ [] fun d member => lowerFrom_image text.toList [] d member]

theorem length_flatMap (f : Char → List Char) (some : ∀ c, f c ≠ []) (text : List Char) :
    text.length ≤ (text.flatMap f).length := by
  induction text with
  | nil => exact Nat.le_refl 0
  | cons c rest ih =>
      have one := List.length_pos_iff.mpr (some c)
      rw [List.flatMap_cons, List.length_append, List.length_cons]
      omega

theorem flatMap_eq_iff (f : Char → List Char) (some : ∀ c, f c ≠ []) (text : List Char) :
    text.flatMap f = text ↔ ∀ c ∈ text, f c = [c] := by
  induction text with
  | nil => simp
  | cons c rest ih =>
      rw [List.flatMap_cons, List.forall_mem_cons, ← ih]
      constructor
      · intro same
        obtain ⟨d, others, image⟩ := List.exists_cons_of_ne_nil (some c)
        rw [image, List.cons_append, List.cons.injEq] at same
        have long := length_flatMap f some rest
        have none : others = [] := by
          have lengths := congrArg List.length same.2
          rw [List.length_append] at lengths
          exact List.length_eq_zero_iff.mp (by omega)
        rw [none, List.nil_append] at same
        exact ⟨by rw [image, none, same.1], same.2⟩
      · rintro ⟨first, others⟩
        rw [first, others, List.singleton_append]

theorem upper_upper (text : String) : upper (upper text) = upper text := by
  rw [upper, upper, String.toList_ofList, (flatMap_eq_iff upperChar upperChar_ne_nil _).mpr]
  intro d member
  obtain ⟨c, _, image⟩ := List.mem_flatMap.mp member
  exact upperChar_twice c d image

-- A character whose upper case is not changed by lower-casing all but its first character.
def RisesOnce (c : Char) : Prop := ∀ d ∈ (upperChar c).tail, lowerChar d = [d]

def capitalize (text : List Char) : List Char :=
  match text with
  | [] => []
  | c :: rest => upperChar c ++ rest.flatMap lowerChar

theorem capitalize_twice (text : List Char) :
    capitalize (capitalize text) = capitalize text ↔ ∀ c ∈ text.head?, RisesOnce c := by
  cases text with
  | nil => simp [capitalize]
  | cons c rest =>
      obtain ⟨d, others, image⟩ := List.exists_cons_of_ne_nil (upperChar_ne_nil c)
      have first : upperChar d = [d] := upperChar_twice c d (image ▸ List.mem_cons_self)
      have tail : (rest.flatMap lowerChar).flatMap lowerChar = rest.flatMap lowerChar := by
        rw [flatMap_eq_iff lowerChar lowerChar_ne_nil]
        intro e member
        obtain ⟨b, _, image⟩ := List.mem_flatMap.mp member
        exact lowerChar_twice b e image
      have again : capitalize (capitalize (c :: rest)) =
          d :: (others.flatMap lowerChar ++ rest.flatMap lowerChar) := by
        rw [capitalize, image, List.cons_append, capitalize, first, List.flatMap_append, tail]
        rfl
      have once : capitalize (c :: rest) = d :: (others ++ rest.flatMap lowerChar) := by
        rw [capitalize, image, List.cons_append]
      rw [again, once, List.cons.injEq, List.append_left_inj, flatMap_eq_iff lowerChar lowerChar_ne_nil]
      simp [RisesOnce, image]

inductive Recast : List Char → List Char → Prop where
  | nil : Recast [] []
  | cons (c : Char) (image rest others : List Char) (some : image ≠ [])
      (bare : Blank.isBlank c = false → ∀ d ∈ image, Blank.isBlank d = false)
      (later : Recast rest others) : Recast (c :: rest) (image ++ others)

namespace Recast

theorem first (text other : List Char) (recast : Recast text other)
    (bare : ∀ c ∈ text.head?, Blank.isBlank c = false) (d : Char) (member : d ∈ other.head?) :
    Blank.isBlank d = false := by
  cases recast with
  | nil => cases member
  | cons c image rest others some kept later =>
      obtain ⟨e, more, rfl⟩ := List.exists_cons_of_ne_nil some
      rw [← Option.some.inj member]
      exact kept (bare c rfl) e List.mem_cons_self

-- By induction on the text: its last character is that of what follows, if anything does.
theorem last (text other : List Char) (recast : Recast text other)
    (bare : ∀ c ∈ text.getLast?, Blank.isBlank c = false) (d : Char) (member : d ∈ other.getLast?) :
    Blank.isBlank d = false := by
  induction recast with
  | nil => cases member
  | cons c image rest others some kept later ih =>
      rw [List.getLast?_append] at member
      cases later with
      | nil => exact kept (bare c rfl) d (List.mem_of_getLast? member)
      | cons b front tail ends someFront _ _ =>
          have ended : (front ++ ends).getLast?.isSome = true := by
            simp [List.getLast?_isSome, someFront]
          rw [Option.or_of_isSome ended] at member
          exact ih (by simpa using bare) member

theorem bare (text other : List Char) (recast : Recast text other) (bare : Blank.Bare text) :
    Blank.Bare other :=
  ⟨first text other recast bare.first, last text other recast bare.last⟩

theorem flatMap (f : Char → List Char) (some : ∀ c, f c ≠ [])
    (kept : ∀ c d, Blank.isBlank c = false → d ∈ f c → Blank.isBlank d = false) (text : List Char) :
    Recast text (text.flatMap f) := by
  induction text with
  | nil => exact .nil
  | cons c rest ih => exact .cons c _ rest _ (some c) (fun bare d => kept c d bare) ih

theorem lowerFrom (text before : List Char) : Recast text (lowerFrom before text) := by
  induction text generalizing before with
  | nil => exact .nil
  | cons c rest ih =>
      refine .cons c _ rest _ ?_ ?_ (ih (c :: before))
      · split
        · split <;> exact List.cons_ne_nil _ _
        · exact lowerChar_ne_nil c
      · intro bare d member
        split at member
        · split at member <;> rw [List.mem_singleton.mp member] <;> decide
        · exact lowerChar_bare c d bare member

theorem capitalize (text : List Char) : Recast text (capitalize text) := by
  cases text with
  | nil => exact .nil
  | cons c rest =>
      exact .cons c _ rest _ (upperChar_ne_nil c) (fun bare d => upperChar_bare c d bare)
        (flatMap lowerChar lowerChar_ne_nil lowerChar_bare rest)

end Recast

end EntitySchema.LetterCase

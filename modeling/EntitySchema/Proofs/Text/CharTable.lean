import EntitySchema.Text.CharTable

set_option autoImplicit false

namespace EntitySchema

theorem toNat_ofNat (n : Nat) (valid : n.isValidChar) : (Char.ofNat n).toNat = n := by
  rw [Char.ofNat, dif_pos valid]
  rfl

theorem ascii_forall (holds : Char → Prop) (each : ∀ n < 128, holds (Char.ofNat n)) (c : Char)
    (small : c.toNat < 128) : holds c := by
  have here := each c.toNat small
  rwa [Char.ofNat_toNat] at here

def stepBits (first step : Nat) : Nat → Nat
  | 0 => 0
  | count + 1 => (1 <<< first) ||| stepBits (first + step) step count

theorem stepBits_testBit (first step count i : Nat) (few : i < count) :
    (stepBits first step count).testBit (first + i * step) = true := by
  induction count generalizing first i with
  | zero => omega
  | succ count ih =>
      cases i with
      | zero => simp [stepBits]
      | succ i =>
          have later := ih (first + step) i (by omega)
          have place : first + (i + 1) * step = first + step + i * step := by
            rw [Nat.add_mul, Nat.one_mul]
            omega
          rw [stepBits, Nat.testBit_or, place, later, Bool.or_true]

def runBits (first last step : Nat) : Nat := stepBits first step ((last - first) / step + 1)

theorem runBits_testBit (n first last step : Nat) (inside : inRun n first last step = true) :
    (runBits first last step).testBit n = true := by
  simp only [inRun, Bool.and_eq_true, decide_eq_true_eq] at inside
  obtain ⟨⟨low, high⟩, whole⟩ := inside
  have few : (n - first) / step < (last - first) / step + 1 :=
    Nat.lt_succ_of_le (Nat.div_le_div_right (by omega))
  have place : first + (n - first) / step * step = n := by
    have exactly := Nat.div_mul_cancel (Nat.dvd_of_mod_eq_zero whole)
    omega
  have set := stepBits_testBit first step _ _ few
  rwa [place] at set

namespace CharTable

def bits (table : CharTable) : Nat :=
  table.foldr (fun (first, last, step) others => runBits first last step ||| others) 0

theorem bits_testBit (table : CharTable) (c : Char) (inside : table.has c = true) :
    table.bits.testBit c.toNat = true := by
  induction table with
  | nil => cases inside
  | cons run rest ih =>
      obtain ⟨first, last, step⟩ := run
      change (runBits first last step ||| bits rest).testBit c.toNat = true
      rw [Nat.testBit_or, Bool.or_eq_true]
      rcases Bool.or_eq_true _ _ ▸ inside with here | later
      · exact .inl (runBits_testBit c.toNat first last step here)
      · exact .inr (ih later)

def apart (a b : CharTable) : Bool := a.bits &&& b.bits == 0

theorem outside_of_apart (a b : CharTable) (checked : apart a b = true) (c : Char)
    (inside : a.has c = true) : b.has c = false := by
  apply Bool.eq_false_iff.mpr
  intro both
  have common : (a.bits &&& b.bits).testBit c.toNat = true := by
    rw [Nat.testBit_and, bits_testBit a c inside, bits_testBit b c both]
    rfl
  rw [beq_iff_eq.mp checked, Nat.zero_testBit] at common
  cases common

end CharTable

namespace CharShift

def domain (table : CharShift) : CharTable := table.map fun (first, last, step, _) => (first, last, step)

def range (table : CharShift) : CharTable :=
  table.map fun (first, last, step, image) => (image, image + (last - first), step)

def proper (table : CharShift) : Bool :=
  table.all fun (first, last, _, image) =>
    image + (last - first) < 0xD800 || (0xDFFF < image && image + (last - first) < 0x110000)

theorem image_none_iff (table : CharShift) (c : Char) :
    table.image? c = none ↔ table.domain.has c = false := by
  rw [image?, List.findSome?_eq_none_iff, CharTable.has, List.any_eq_false, domain, List.forall_mem_map]
  simp

theorem image_first (run : Nat × Nat × Nat × Nat) (rest : CharShift) (c : Char)
    (outside : rest.domain.has c = false) : image? (run :: rest) c = image? [run] c := by
  have later := (image_none_iff rest c).mpr outside
  rw [image?] at later
  rw [image?, image?, List.findSome?_cons, List.findSome?_cons, later, List.findSome?_nil]

theorem image_range (table : CharShift) (checked : table.proper = true) (c d : Char)
    (mapped : table.image? c = some d) : table.range.has d = true := by
  obtain ⟨run, member, found⟩ := List.exists_of_findSome?_eq_some mapped
  obtain ⟨first, last, step, image⟩ := run
  have scalar := List.all_eq_true.mp checked (first, last, step, image) member
  simp only [Bool.or_eq_true, Bool.and_eq_true, decide_eq_true_eq] at scalar
  simp only [Option.ite_none_right_eq_some, Option.some.injEq, inRun, Bool.and_eq_true,
    decide_eq_true_eq] at found
  obtain ⟨⟨⟨low, high⟩, whole⟩, same⟩ := found
  have valid : (image + (c.toNat - first)).isValidChar := by
    unfold Nat.isValidChar
    omega
  have code : d.toNat = image + (c.toNat - first) := by
    rw [← same, toNat_ofNat _ valid]
  refine List.any_eq_true.mpr
    ⟨(image, image + (last - first), step), List.mem_map.mpr ⟨_, member, rfl⟩, ?_⟩
  simp only [inRun, code, Bool.and_eq_true, decide_eq_true_eq, Nat.add_sub_cancel_left]
  exact ⟨⟨Nat.le_add_right _ _, by omega⟩, whole⟩

def rangeApart (table : CharShift) (other : CharTable) : Bool := table.proper && table.range.apart other

theorem image_outside (table : CharShift) (other : CharTable) (checked : table.rangeApart other = true)
    (c d : Char) (mapped : table.image? c = some d) : other.has d = false := by
  obtain ⟨proper, apart⟩ := Bool.and_eq_true _ _ ▸ checked
  exact table.range.outside_of_apart other apart d (table.image_range proper c d mapped)

end CharShift

end EntitySchema

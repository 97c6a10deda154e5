import EntitySchema.Proofs.Number.Rounding
import Mathlib.Data.Rat.Floor

set_option autoImplicit false

namespace EntitySchema.Binary64

-- The exponent as a variable, which is not multiplied out.
theorem unit_order : ∃ order, order = 1074 ∧ unit = Int.ofNat (Nat.pow 2 order) :=
  ⟨1074, rfl, rfl⟩

theorem unit_pos : 0 < unit := by
  obtain ⟨order, _, power⟩ := unit_order
  exact power ▸ Int.natCast_pos.mpr (Nat.two_pow_pos order)

def value (x : Binary64) : ℚ := x.scaled / unit

theorem unit_rat_pos : (0 : ℚ) < unit := Int.cast_pos.mpr unit_pos

theorem value_eq_iff (x : Binary64) (n : Int) : x.value = n ↔ x.scaled = n * unit := by
  rw [value, div_eq_iff (ne_of_gt unit_rat_pos)]
  exact_mod_cast Iff.rfl

theorem value_eq_div (x : Binary64) (p q : Int) (nonzero : q ≠ 0) (scaled : x.scaled * q = p * unit) :
    x.value = p / q := by
  rw [value, div_eq_div_iff (ne_of_gt unit_rat_pos) (Int.cast_ne_zero.mpr nonzero)]
  exact_mod_cast scaled

theorem le_iff_value (x y : Binary64) : x.le y = true ↔ x.value ≤ y.value := by
  rw [le, decide_eq_true_eq, value, value, div_le_div_iff_of_pos_right unit_rat_pos, Int.cast_le]

theorem value_nonneg_iff (x : Binary64) : 0 ≤ x.value ↔ 0 ≤ x.scaled := by
  rw [value, le_div_iff₀ unit_rat_pos, zero_mul, Int.cast_nonneg_iff]

theorem value_nonpos_iff (x : Binary64) : x.value ≤ 0 ↔ x.scaled ≤ 0 := by
  rw [value, div_le_iff₀ unit_rat_pos, zero_mul, Int.cast_nonpos]

theorem isWhole_iff (x : Binary64) : x.isWhole = true ↔ x.value = x.truncate := by
  rw [isWhole, decide_eq_true_eq, value_eq_iff, truncate, ← Int.dvd_iff_emod_eq_zero]
  constructor
  · intro multiple
    exact (Int.tdiv_mul_cancel multiple).symm
  · intro product
    exact product ▸ Int.dvd_mul_left _ _

theorem floor_quotient (n : Int) : ⌊(n : ℚ) / unit⌋ = n / unit := by
  have natural : ((unit.toNat : Nat) : Int) = unit := Int.toNat_of_nonneg (Int.le_of_lt unit_pos)
  have quotient := Rat.floor_intCast_div_natCast n unit.toNat
  rwa [← Int.cast_natCast, natural] at quotient

theorem truncate_floor (x : Binary64) (nonneg : 0 ≤ x.value) : x.truncate = ⌊x.value⌋ := by
  rw [truncate, Int.tdiv_eq_ediv_of_nonneg ((value_nonneg_iff x).mp nonneg)]
  exact (floor_quotient x.scaled).symm

theorem truncate_ceil (x : Binary64) (nonpos : x.value ≤ 0) : x.truncate = ⌈x.value⌉ := by
  have below : 0 ≤ -x.scaled := Int.neg_nonneg_of_nonpos ((value_nonpos_iff x).mp nonpos)
  rw [← neg_neg x.value, Int.ceil_neg, value, ← neg_div, ← Int.cast_neg, floor_quotient,
    ← Int.tdiv_eq_ediv_of_nonneg below, Int.neg_tdiv, Int.neg_neg, truncate]

theorem truncate_side (x : Binary64) (n : Int) :
    ((n : ℚ) ≤ x.value → n ≤ x.truncate) ∧ (x.value ≤ n → x.truncate ≤ n) := by
  rcases le_total 0 x.value with nonneg | nonpos
  · rw [truncate_floor x nonneg]
    exact ⟨Int.le_floor.mpr, fun below => Int.floor_le_iff.mpr (lt_add_of_le_of_pos below one_pos)⟩
  · rw [truncate_ceil x nonpos]
    exact ⟨fun above => Int.le_ceil_iff.mpr (lt_of_lt_of_le (sub_one_lt _) above), Int.ceil_le.mpr⟩

theorem truncate_le_value (x : Binary64) (nonneg : 0 ≤ x.value) : (x.truncate : ℚ) ≤ x.value :=
  truncate_floor x nonneg ▸ Int.floor_le x.value

theorem value_le_truncate (x : Binary64) (nonpos : x.value ≤ 0) : x.value ≤ x.truncate :=
  truncate_ceil x nonpos ▸ Int.le_ceil x.value

theorem truncate_mono (x y : Binary64) (ordered : x.le y = true) : x.truncate ≤ y.truncate :=
  Int.tdiv_le_tdiv unit_pos (by simpa [le] using ordered)

theorem value_ofInt (n : Int) (small : n.natAbs ≤ 2 ^ 53) : (ofInt n).value = n := by
  obtain ⟨order, least, power⟩ := unit_order
  rw [value_eq_iff, power, ofInt_rounded n (by omega) order least,
    (rounded_rounds n).small n _ small]

end EntitySchema.Binary64

import EntitySchema.Proofs.Number.Whole
import Mathlib.Tactic.Ring

set_option autoImplicit false

namespace EntitySchema.Binary64

-- How far doubles are apart at a whole number; where they are closer, the whole numbers are.
def spacing (n : Int) : Nat := 2 ^ (n.natAbs.log2 - 52)

structure Rounds (n r : Int) : Prop where
  grid : (spacing n : Int) ∣ r
  near : 2 * (r - n).natAbs ≤ spacing n
  even : 2 * (r - n).natAbs = spacing n → (2 * spacing n : Int) ∣ r

def rounded (n : Int) : Int := n.sign * (roundQuotient n.natAbs (spacing n) * spacing n : Nat)

theorem roundQuotient_near (num den : Nat) (given : 0 < den) :
    2 * ((roundQuotient num den * den : Nat) - (num : Int)).natAbs ≤ den ∧
      (2 * ((roundQuotient num den * den : Nat) - (num : Int)).natAbs = den →
        roundQuotient num den % 2 = 0) := by
  have less := Nat.mod_lt num given
  have down : num / den * den + num % den = num := Nat.div_add_mod' num den
  have up : (num / den + 1) * den = num / den * den + den := Nat.succ_mul _ _
  simp only [roundQuotient]
  split
  · omega
  · split
    · omega
    · rcases Nat.mod_two_eq_zero_or_one (num / den) with even | odd
      · rw [even, Nat.add_zero]
        omega
      · rw [odd]
        omega

theorem spacing_pos (n : Int) : 0 < spacing n := Nat.two_pow_pos _

theorem rounded_distance (n : Int) :
    (rounded n - n).natAbs =
      ((roundQuotient n.natAbs (spacing n) * spacing n : Nat) - (n.natAbs : Int)).natAbs := by
  rcases Int.lt_trichotomy n 0 with negative | rfl | positive
  · rw [rounded, Int.sign_eq_neg_one_of_neg negative]
    omega
  · decide
  · rw [rounded, Int.sign_eq_one_of_pos positive]
    omega

theorem rounded_rounds (n : Int) : Rounds n (rounded n) := by
  obtain ⟨near, even⟩ := roundQuotient_near n.natAbs (spacing n) (spacing_pos n)
  rw [← rounded_distance n] at near even
  refine ⟨?_, near, ?_⟩
  · exact ⟨n.sign * roundQuotient n.natAbs (spacing n), by rw [rounded]; push_cast; ring⟩
  · intro tie
    obtain ⟨half, twice⟩ := Nat.dvd_of_mod_eq_zero (even tie)
    exact ⟨n.sign * half, by rw [rounded, twice]; push_cast; ring⟩

theorem spacing_dvd (n : Int) (small : n.natAbs ≤ 2 ^ 53) : (spacing n : Int) ∣ n := by
  apply Int.natCast_dvd.mpr
  rcases Nat.lt_or_eq_of_le small with less | top
  · have digits : n.natAbs.log2 - 52 = 0 := by
      by_cases zero : n.natAbs = 0
      · simp [zero]
      · have := (Nat.log2_lt zero).mpr less
        omega
    rw [spacing, digits]
    exact Nat.one_dvd _
  · rw [spacing, top, Nat.log2_two_pow]
    exact Nat.pow_dvd_pow 2 (by decide)

theorem spacing_even (n : Int) (large : 2 ^ 53 ≤ n.natAbs) : (2 : Int) ∣ spacing n := by
  have digits : 53 ≤ n.natAbs.log2 := (Nat.le_log2 (by omega)).mpr large
  have more : n.natAbs.log2 - 52 = n.natAbs.log2 - 53 + 1 := by omega
  apply Int.natCast_dvd_natCast.mpr
  rw [spacing, more, Nat.pow_succ']
  exact Nat.dvd_mul_right 2 _

namespace Rounds

variable (n r : Int) (rounds : Rounds n r)

include rounds

theorem grid_side (v : Int) (stands : (spacing n : Int) ∣ v) : (v ≤ n → v ≤ r) ∧ (n ≤ v → r ≤ v) := by
  have near := rounds.near
  have positive := spacing_pos n
  constructor
  · intro below
    by_contra above
    have step := Int.le_of_dvd (by omega) (Int.dvd_sub stands rounds.grid)
    omega
  · intro above
    by_contra below
    have step := Int.le_of_dvd (by omega) (Int.dvd_sub rounds.grid stands)
    omega

theorem exact (stands : (spacing n : Int) ∣ n) : r = n := by
  obtain ⟨least, greatest⟩ := grid_side n r rounds n stands
  exact Int.le_antisymm (greatest (Int.le_refl n)) (least (Int.le_refl n))

theorem small (few : n.natAbs ≤ 2 ^ 53) : r = n := exact n r rounds (spacing_dvd n few)

theorem large (many : 2 ^ 53 ≤ n.natAbs) : 2 ∣ r := Int.dvd_trans (spacing_even n many) rounds.grid

end Rounds

theorem scaled_natAbs (x : Binary64) :
    x.scaled.natAbs = x.mantissa * 2 ^ (x.exponent + 1074).toNat := by
  rw [scaled]
  split
  · exact Int.natAbs_neg _
  · rfl

theorem double_grid (x : Binary64) (v : Int) (order : Nat) (least : order = 1074)
    (same : x.scaled = v * Int.ofNat (Nat.pow 2 order)) (zeros : Nat) :
    2 ^ (zeros + 1) ∣ v.natAbs ∨ v.natAbs < 2 ^ (53 + zeros) := by
  have magnitude : x.mantissa * 2 ^ (x.exponent + 1074).toNat = v.natAbs * 2 ^ order := by
    rw [← scaled_natAbs, same, Int.natAbs_mul]
    rfl
  have few : x.mantissa < 2 ^ 53 := x.canonical.1
  rcases Nat.lt_or_ge (x.exponent + 1074).toNat (zeros + 1 + order) with short | long
  · right
    have less : v.natAbs * 2 ^ order < 2 ^ (53 + zeros) * 2 ^ order := by
      calc v.natAbs * 2 ^ order = x.mantissa * 2 ^ (x.exponent + 1074).toNat := magnitude.symm
        _ ≤ x.mantissa * 2 ^ (zeros + order) :=
            Nat.mul_le_mul_left _ (Nat.pow_le_pow_right (by decide) (by omega))
        _ < 2 ^ 53 * 2 ^ (zeros + order) := Nat.mul_lt_mul_of_pos_right few (Nat.two_pow_pos _)
        _ = 2 ^ (53 + zeros) * 2 ^ order := by rw [← Nat.pow_add, ← Nat.pow_add, Nat.add_assoc]
    exact Nat.lt_of_mul_lt_mul_right less
  · left
    obtain ⟨more, parts⟩ := Nat.exists_eq_add_of_le long
    have product : v.natAbs = x.mantissa * 2 ^ more * 2 ^ (zeros + 1) := by
      apply Nat.eq_of_mul_eq_mul_right (Nat.two_pow_pos order)
      rw [← magnitude, parts, Nat.pow_add, Nat.pow_add]
      ring
    exact product ▸ Nat.dvd_mul_left _ _

theorem Rounds.side (n r : Int) (rounds : Rounds n r) (x : Binary64) (v : Int) (order : Nat)
    (least : order = 1074) (same : x.scaled = v * Int.ofNat (Nat.pow 2 order)) :
    (v ≤ n → v ≤ r) ∧ (n ≤ v → r ≤ v) := by
  rcases Nat.lt_or_ge (2 ^ 53) n.natAbs with many | few
  · have nonzero : n.natAbs ≠ 0 := by omega
    have digits : 53 ≤ n.natAbs.log2 := (Nat.le_log2 nonzero).mpr (Nat.le_of_lt many)
    obtain ⟨zeros, length⟩ := Nat.exists_eq_add_of_le digits
    have apart : spacing n = 2 ^ (zeros + 1) := by
      rw [spacing, length]
      congr 1
      omega
    have reached : 2 ^ (53 + zeros) ≤ n.natAbs := length ▸ Nat.log2_self_le nonzero
    rcases double_grid x v order least same zeros with stands | short
    · exact rounds.grid_side n r v (Int.natCast_dvd.mpr (apart ▸ stands))
    · have power : (spacing n : Int) ∣ (2 ^ (53 + zeros) : Nat) := by
        rw [apart]
        exact Int.natCast_dvd_natCast.mpr (Nat.pow_dvd_pow 2 (by omega))
      have up := rounds.grid_side n r (2 ^ (53 + zeros) : Nat) power
      have down := rounds.grid_side n r (-(2 ^ (53 + zeros) : Nat)) (Int.dvd_neg.mpr power)
      omega
  · rw [rounds.small n r few]
    exact ⟨id, id⟩

theorem quotient_bounds (m : Nat) (many : 2 ^ 53 ≤ m) :
    2 ^ 52 ≤ roundQuotient m (2 ^ (m.log2 - 52)) ∧ roundQuotient m (2 ^ (m.log2 - 52)) ≤ 2 ^ 53 := by
  have nonzero : m ≠ 0 := by omega
  have digits : 53 ≤ m.log2 := (Nat.le_log2 nonzero).mpr many
  have unit : 0 < 2 ^ (m.log2 - 52) := Nat.two_pow_pos _
  have bottom : 52 + (m.log2 - 52) = m.log2 := by omega
  have top : 53 + (m.log2 - 52) = m.log2 + 1 := by omega
  have least : 2 ^ 52 ≤ m / 2 ^ (m.log2 - 52) := by
    rw [Nat.le_div_iff_mul_le unit, ← Nat.pow_add, bottom]
    exact Nat.log2_self_le nonzero
  have greatest : m / 2 ^ (m.log2 - 52) < 2 ^ 53 := by
    rw [Nat.div_lt_iff_lt_mul unit, ← Nat.pow_add, top]
    exact Nat.lt_log2_self
  simp only [roundQuotient]
  split
  · omega
  · split <;> omega

-- The mantissa may be carried over into one more digit, and is then a power of two.
theorem carry_value (negative : Bool) (mantissa zeros : Nat) (least : 2 ^ 52 ≤ mantissa)
    (greatest : mantissa ≤ 2 ^ 53) (room : zeros ≤ 970) :
    ∃ x, carry? negative mantissa zeros = some x ∧ x.negative = negative ∧
      ∃ more : Nat, x.exponent = more ∧ x.mantissa * 2 ^ more = mantissa * 2 ^ zeros := by
  rcases Nat.lt_or_eq_of_le greatest with less | full
  · have canonical : Canonical mantissa zeros := by
      refine ⟨by simpa using less, by omega, by omega, .inl (by simpa using least)⟩
    exact ⟨_, by rw [carry?, dif_pos canonical], rfl, zeros, rfl, rfl⟩
  · subst full
    have wide : ¬Canonical (2 ^ 53) zeros := fun canonical => absurd canonical.1 (by decide)
    have canonical : Canonical (2 ^ 53 / 2) (zeros + 1) := by
      refine ⟨by decide, by omega, by omega, .inl (by decide)⟩
    refine ⟨_, by rw [carry?, dif_neg wide, dif_pos canonical], rfl, zeros + 1, rfl, ?_⟩
    rw [Nat.pow_succ' (n := zeros)]
    ring

theorem ofInt_large (n : Int) (many : 2 ^ 53 ≤ n.natAbs) (fits : n.natAbs < 2 ^ 64) (order : Nat)
    (least : order = 1074) : (ofInt n).scaled = rounded n * Int.ofNat (Nat.pow 2 order) := by
  have nonzero : n.natAbs ≠ 0 := by omega
  have digits : 53 ≤ n.natAbs.log2 := (Nat.le_log2 nonzero).mpr many
  have room : n.natAbs.log2 < 64 := (Nat.log2_lt nonzero).mpr fits
  obtain ⟨low, high⟩ := quotient_bounds n.natAbs many
  have exponent : max (-1074) ((n.natAbs.log2 : Int) - 52) = (n.natAbs.log2 - 52 : Nat) := by omega
  obtain ⟨x, carried, sign, more, place, value⟩ := carry_value (n < 0) _ (n.natAbs.log2 - 52) low high
    (by omega)
  have made : ofRatio? (n < 0) n.natAbs 1 = some x := by
    have binary := binaryOrder_whole n.natAbs 1 nonzero Nat.one_ne_zero
    rw [Nat.mul_one] at binary
    simp only [ofRatio?, nonzero, Nat.one_ne_zero, or_self, if_false, binary, exponent,
      Int.natCast_nonneg, if_true, Int.toNat_natCast, Nat.one_mul]
    exact carried
  have magnitude : x.mantissa * Nat.pow 2 (x.exponent + 1074).toNat =
      (rounded n).natAbs * Nat.pow 2 order := by
    have shift : (x.exponent + 1074).toNat = more + order := by omega
    change x.mantissa * 2 ^ (x.exponent + 1074).toNat = (rounded n).natAbs * 2 ^ order
    rw [shift, Nat.pow_add, ← Nat.mul_assoc, value, rounded, Int.natAbs_mul,
      Int.natAbs_sign_of_ne_zero (by omega), Nat.one_mul, Int.natAbs_natCast, spacing]
  have signed : x.negative = decide (rounded n < 0) := by
    have positive : 0 < roundQuotient n.natAbs (spacing n) * spacing n :=
      Nat.mul_pos (Nat.lt_of_lt_of_le (by decide) low) (spacing_pos n)
    rw [sign, rounded, decide_eq_decide]
    rcases Int.lt_or_gt_of_ne (fun zero => nonzero (Int.natAbs_eq_zero.mpr zero)) with below | above
    · rw [Int.sign_eq_neg_one_of_neg below]
      omega
    · rw [Int.sign_eq_one_of_pos above]
      omega
  rw [ofInt, made, Option.getD_some]
  exact scaled_signed x (rounded n) (Nat.pow 2 order) signed magnitude

theorem ofInt_rounded (n : Int) (fits : n.natAbs < 2 ^ 64) (order : Nat) (least : order = 1074) :
    (ofInt n).scaled = rounded n * Int.ofNat (Nat.pow 2 order) := by
  rcases Nat.lt_or_ge n.natAbs (2 ^ 53) with small | large
  · rw [(rounded_rounds n).small n _ (Nat.le_of_lt small)]
    exact scaled_ofInt n small order least
  · exact ofInt_large n large fits order least

end EntitySchema.Binary64

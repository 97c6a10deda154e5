import EntitySchema.Number.Binary64
import Mathlib.Algebra.Group.Nat.Defs

set_option autoImplicit false

namespace EntitySchema.Binary64

theorem roundQuotient_whole (n den : Nat) (given : 0 < den) : roundQuotient (n * den) den = n := by
  simp [roundQuotient, Nat.mul_div_cancel n given, given]

theorem log2_mul (n den : Nat) (positive : n ≠ 0) (given : den ≠ 0) :
    (n * den).log2 = n.log2 + den.log2 ∨ (n * den).log2 = n.log2 + den.log2 + 1 := by
  have product : n * den ≠ 0 := Nat.mul_ne_zero positive given
  have least : n.log2 + den.log2 ≤ (n * den).log2 := by
    rw [Nat.le_log2 product, Nat.pow_add]
    exact Nat.mul_le_mul (Nat.log2_self_le positive) (Nat.log2_self_le given)
  have greatest : (n * den).log2 < n.log2 + 1 + (den.log2 + 1) := by
    rw [Nat.log2_lt product, Nat.pow_add]
    exact Nat.mul_lt_mul'' Nat.lt_log2_self Nat.lt_log2_self
  omega

theorem binaryOrder_whole (n den : Nat) (positive : n ≠ 0) (given : den ≠ 0) :
    binaryOrder (n * den) den = n.log2 := by
  have reached : den * Nat.pow 2 n.log2 ≤ n * den := by
    rw [Nat.mul_comm n den]
    exact Nat.mul_le_mul_left den (Nat.log2_self_le positive)
  have beyond : ¬den * Nat.pow 2 (n.log2 + 1) ≤ n * den := by
    rw [Nat.mul_comm n den, Nat.not_le]
    exact Nat.mul_lt_mul_of_pos_left Nat.lt_log2_self (Nat.pos_of_ne_zero given)
  rcases log2_mul n den positive given with same | more
  · have guess : ((n * den).log2 : Int) - (den.log2 : Int) = (n.log2 : Nat) := by omega
    simp only [binaryOrder, guess, Int.toNat_natCast, Int.natCast_nonneg, if_true, reached]
  · have guess : ((n * den).log2 : Int) - (den.log2 : Int) = (n.log2 + 1 : Nat) := by omega
    simp only [binaryOrder, guess, Int.toNat_natCast, Int.natCast_nonneg, if_true, beyond, if_false]
    omega

theorem mantissa_canonical (n : Nat) (positive : n ≠ 0) (small : n < 2 ^ 53) :
    Canonical (n * 2 ^ (52 - n.log2)) (n.log2 - 52) := by
  have order : n.log2 < 53 := (Nat.log2_lt positive).mpr small
  have least : 2 ^ 52 ≤ n * 2 ^ (52 - n.log2) := by
    calc 2 ^ 52 = 2 ^ n.log2 * 2 ^ (52 - n.log2) := by rw [← Nat.pow_add]; congr 1; omega
      _ ≤ n * 2 ^ (52 - n.log2) := Nat.mul_le_mul_right _ (Nat.log2_self_le positive)
  have greatest : n * 2 ^ (52 - n.log2) < 2 ^ 53 := by
    calc n * 2 ^ (52 - n.log2) < 2 ^ (n.log2 + 1) * 2 ^ (52 - n.log2) :=
          Nat.mul_lt_mul_of_pos_right Nat.lt_log2_self (Nat.two_pow_pos _)
      _ = 2 ^ 53 := by rw [← Nat.pow_add]; congr 1; omega
  refine ⟨?_, by omega, by omega, .inl ?_⟩
  · simpa using greatest
  · simpa using least

theorem ofRatio_whole (negative : Bool) (n den : Nat) (positive : n ≠ 0) (given : den ≠ 0)
    (small : n < 2 ^ 53) :
    ofRatio? negative (n * den) den =
      some ⟨negative, n * 2 ^ (52 - n.log2), n.log2 - 52, mantissa_canonical n positive small⟩ := by
  have order : n.log2 < 53 := (Nat.log2_lt positive).mpr small
  have exponent : max (-1074) ((n.log2 : Int) - 52) = n.log2 - 52 := by omega
  have whole : (if 0 ≤ (n.log2 : Int) - 52 then
        roundQuotient (n * den) (den * Nat.pow 2 ((n.log2 : Int) - 52).toNat)
      else roundQuotient (n * den * Nat.pow 2 (-((n.log2 : Int) - 52)).toNat) den) =
      n * 2 ^ (52 - n.log2) := by
    split
    · rename_i top
      have full : n.log2 = 52 := by omega
      simp [full, roundQuotient_whole n den (Nat.pos_of_ne_zero given)]
    · have shift : (-((n.log2 : Int) - 52)).toNat = 52 - n.log2 := by omega
      rw [shift, Nat.mul_right_comm, roundQuotient_whole _ den (Nat.pos_of_ne_zero given)]
      rfl
  simp only [ofRatio?, Nat.mul_ne_zero positive given, given, or_self, if_false,
    binaryOrder_whole n den positive given, exponent, whole]
  simp [carry?, mantissa_canonical n positive small]

theorem ofRatio_one (negative : Bool) (n : Nat) (positive : n ≠ 0) (small : n < 2 ^ 53) :
    ofRatio? negative n 1 =
      some ⟨negative, n * 2 ^ (52 - n.log2), n.log2 - 52, mantissa_canonical n positive small⟩ := by
  simpa using ofRatio_whole negative n 1 positive Nat.one_ne_zero small

theorem mantissa_scaled (n more order : Nat) (width : n.log2 ≤ 52) (sum : 52 + more = order) :
    n * 2 ^ (52 - n.log2) * Nat.pow 2 (n.log2 + more) = n * Nat.pow 2 order := by
  change n * 2 ^ (52 - n.log2) * 2 ^ (n.log2 + more) = n * 2 ^ order
  rw [Nat.mul_assoc, ← Nat.pow_add]
  congr 2
  omega

theorem scaled_signed (x : Binary64) (n : Int) (scale : Nat) (signed : x.negative = decide (n < 0))
    (magnitude : x.mantissa * Nat.pow 2 (x.exponent + 1074).toNat = n.natAbs * scale) :
    x.scaled = n * Int.ofNat scale := by
  simp only [scaled, magnitude, signed, decide_eq_true_eq]
  by_cases negative : n < 0
  · rw [if_pos negative, Int.natCast_mul, Int.ofNat_natAbs_of_nonpos (by omega), Int.neg_mul,
      Int.neg_neg]
    rfl
  · rw [if_neg negative, Int.natCast_mul, Int.natAbs_of_nonneg (by omega)]
    rfl

-- The exponent of the unit stays a variable: as a numeral it would be multiplied out.
theorem scaled_ofInt (n : Int) (small : n.natAbs < 2 ^ 53) (order : Nat) (least : order = 1074) :
    (ofInt n).scaled = n * Int.ofNat (Nat.pow 2 order) := by
  by_cases nothing : n = 0
  · subst nothing
    simp [ofInt, ofRatio?, zero, scaled]
  · have positive : n.natAbs ≠ 0 := by omega
    have width : n.natAbs.log2 < 53 := (Nat.log2_lt positive).mpr small
    have shift : ((n.natAbs.log2 : Int) - 52 + 1074).toNat = n.natAbs.log2 + (order - 52) := by omega
    rw [ofInt, ofRatio_one _ n.natAbs positive small, Option.getD_some]
    refine scaled_signed _ n (Nat.pow 2 order) rfl ?_
    rw [shift]
    exact mantissa_scaled n.natAbs (order - 52) order (by omega) (by omega)

theorem ofInt_le (m n : Int) (firstSmall : m.natAbs < 2 ^ 53) (secondSmall : n.natAbs < 2 ^ 53) :
    (ofInt m).le (ofInt n) = true ↔ m ≤ n := by
  obtain ⟨order, least⟩ : ∃ order, order = 1074 := ⟨_, rfl⟩
  rw [le, decide_eq_true_iff, scaled_ofInt m firstSmall order least,
    scaled_ofInt n secondSmall order least]
  exact Int.mul_le_mul_iff_of_pos_right (Int.natCast_pos.mpr (Nat.two_pow_pos order))

end EntitySchema.Binary64

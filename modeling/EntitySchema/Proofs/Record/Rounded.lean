import EntitySchema.Proofs.Field.Whole
import EntitySchema.Proofs.Record.Normalizer

set_option autoImplicit false

namespace EntitySchema

structure NearestAway (q : ℚ) (k : Int) : Prop where
  near : |q - k| ≤ 1 / 2
  away : |q - k| = 1 / 2 → |q| < |(k : ℚ)|

namespace NearestAway

theorem neg (q : ℚ) (k : Int) (nearest : NearestAway q k) : NearestAway (-q) (-k) := by
  have distance : |-q - ((-k : Int) : ℚ)| = |q - k| := by
    rw [Int.cast_neg, ← neg_sub', abs_neg]
  refine ⟨distance ▸ nearest.near, fun tie => ?_⟩
  rw [abs_neg, Int.cast_neg, abs_neg]
  exact nearest.away (distance ▸ tie)

theorem whole (k : Int) : NearestAway k k := by
  refine ⟨by simp, fun tie => ?_⟩
  norm_num at tie

-- Two candidates would be a half below and a half above, and the one nearer to zero is none.
theorem not_two (q : ℚ) (k l : Int) (first : NearestAway q k) (second : NearestAway q l) : ¬k < l := by
  intro order
  have step : (k : ℚ) + 1 ≤ l := by exact_mod_cast order
  have low := (abs_le.mp first.near).2
  have high := (abs_le.mp second.near).1
  have middle : q = k + 1 / 2 := by linarith
  have next : (l : ℚ) = k + 1 := by linarith
  have below := first.away (by rw [middle, add_sub_cancel_left, abs_of_pos one_half_pos])
  have above := second.away (by rw [middle, next]; norm_num)
  rw [next] at above
  rcases lt_or_ge k 0 with negative | nonneg
  · have small : (k : ℚ) + 1 ≤ 0 := by exact_mod_cast negative
    rw [abs_of_nonpos small, middle] at above
    linarith [neg_abs_le ((k : ℚ) + 1 / 2)]
  · have large : (0 : ℚ) ≤ k := by exact_mod_cast nonneg
    rw [abs_of_nonneg large, middle] at below
    linarith [le_abs_self ((k : ℚ) + 1 / 2)]

theorem unique (q : ℚ) (k l : Int) (first : NearestAway q k) (second : NearestAway q l) : k = l :=
  Int.le_antisymm (Int.not_lt.mp (not_two q l k second first)) (Int.not_lt.mp (not_two q k l first second))

theorem floor (q : ℚ) (nonneg : 0 ≤ q) : NearestAway q ⌊q + 1 / 2⌋ := by
  have below := Int.floor_le (q + 1 / 2)
  have above := Int.lt_floor_add_one (q + 1 / 2)
  refine ⟨abs_le.mpr ⟨by linarith, by linarith⟩, fun tie => ?_⟩
  have up : (⌊q + 1 / 2⌋ : ℚ) = q + 1 / 2 := by
    rcases abs_eq_abs.mp (tie.trans (abs_of_pos one_half_pos).symm) with more | less
    · linarith
    · linarith
  rw [up, abs_of_nonneg nonneg]
  exact lt_of_lt_of_le (by linarith) (le_abs_self _)

theorem quotient (num den : Nat) (given : 0 < den) :
    NearestAway (num / den) ((2 * num + den) / (2 * den) : Nat) := by
  have positive : (0 : ℚ) < den := Nat.cast_pos.mpr given
  have half : (num : ℚ) / den + 1 / 2 = (2 * num + den : Nat) / (2 * den : Nat) := by
    push_cast
    field_simp
  have nearest := floor ((num : ℚ) / den) (by positivity)
  rwa [half, Rat.floor_natCast_div_natCast, ← Int.natCast_ediv] at nearest

end NearestAway

namespace Binary64

-- The powers of two as variables, which are not multiplied out.
theorem roundAway_order (x : Binary64) : ∃ order next, order = 1074 ∧ next = 1075 ∧
    x.roundAway =
      if x.negative then -(((2 * x.scaled.natAbs + Nat.pow 2 order) / Nat.pow 2 next : Nat) : Int)
      else ((2 * x.scaled.natAbs + Nat.pow 2 order) / Nat.pow 2 next : Nat) :=
  ⟨1074, 1075, rfl, rfl, rfl⟩

theorem unit_cast (order : Nat) (power : unit = Int.ofNat (Nat.pow 2 order)) :
    (unit : ℚ) = (2 ^ order : Nat) := by
  rw [power]
  exact Int.cast_natCast _

theorem scaled_sign (x : Binary64) :
    x.scaled = if x.negative then -(x.scaled.natAbs : Int) else (x.scaled.natAbs : Int) := by
  rw [scaled_natAbs, scaled]
  rfl

theorem roundAway_nearest (x : Binary64) : NearestAway x.value x.roundAway := by
  obtain ⟨order, next, least, following, rounded⟩ := roundAway_order x
  obtain ⟨exponent, same, power⟩ := unit_order
  obtain rfl : exponent = order := same.trans least.symm
  have twice : Nat.pow 2 next = 2 * Nat.pow 2 exponent := by
    have successor : next = exponent + 1 := by omega
    rw [successor]
    exact Nat.pow_succ'
  have nearest := NearestAway.quotient x.scaled.natAbs (2 ^ exponent) (Nat.two_pow_pos exponent)
  rw [twice] at rounded
  rw [rounded, value, unit_cast exponent power, scaled_sign]
  cases x.negative with
  | false => simpa using nearest
  | true =>
      have negated := nearest.neg
      simpa [neg_div] using negated

example : (⟨false, 0x1FFFFFFFFFFFFF, -54, by decide⟩ : Binary64).roundAway = 0 := by decide +kernel

theorem small_of_exponent (x : Binary64) (fractional : x.exponent < 0) : |x.value| ≤ 2 ^ 53 := by
  obtain ⟨order, least, power⟩ := unit_order
  have digits : x.mantissa ≤ 2 ^ 53 := Nat.le_of_lt x.canonical.1
  have few : 2 ^ (x.exponent + 1074).toNat ≤ 2 ^ order :=
    Nat.pow_le_pow_right (by decide) (by omega)
  have magnitude : x.scaled.natAbs ≤ 2 ^ 53 * 2 ^ order := by
    rw [scaled_natAbs]
    exact Nat.mul_le_mul digits few
  have positive := unit_rat_pos
  rw [value, abs_div, abs_of_pos positive, div_le_iff₀ positive, unit_cast order power, ← Int.cast_abs,
    Int.abs_eq_natAbs, Int.cast_natCast]
  exact_mod_cast magnitude

theorem isWhole_of_exponent (x : Binary64) (integral : 0 ≤ x.exponent) : x.isWhole = true := by
  obtain ⟨order, least, power⟩ := unit_order
  have places : (x.exponent + 1074).toNat = x.exponent.toNat + order := by omega
  rw [isWhole, decide_eq_true_eq, ← Int.dvd_iff_emod_eq_zero, power]
  apply Int.natCast_dvd.mpr
  rw [scaled_natAbs, places, Nat.pow_add, ← Nat.mul_assoc]
  exact Nat.dvd_mul_left _ _

theorem whole_of_far (x : Binary64)
    (far : ¬(-0x8000000000000000 < x.roundAway ∧ x.roundAway < 0x8000000000000000)) :
    x.isWhole = true ∧ x.value = x.roundAway := by
  have nearest := roundAway_nearest x
  have integral : x.isWhole = true := by
    apply isWhole_of_exponent
    by_contra fractional
    have small := abs_le.mp (small_of_exponent x (Int.not_le.mp fractional))
    have near := abs_le.mp nearest.near
    have low : (-0x8000000000000000 : ℚ) < x.roundAway := by linarith
    have high : (x.roundAway : ℚ) < 0x8000000000000000 := by linarith
    exact far ⟨by exact_mod_cast low, by exact_mod_cast high⟩
  have exact := (isWhole_iff x).mp integral
  have same := NearestAway.unique x.value x.roundAway x.truncate nearest (exact ▸ NearestAway.whole x.truncate)
  exact ⟨integral, same ▸ exact⟩

end Binary64

def JsonNumber.value : JsonNumber → ℚ
  | .whole n _ => n
  | .real x => x.value

theorem Check.integer_accepts (n : JsonNumber) (integral : n.toBinary64.isWhole = true) :
    Check.integer (.number n) .unbounded true = .ok () := by
  have read : Check.whole "integer" (.number n) true = .ok n.toBinary64 :=
    (bind_ok_iff _ _ _).mpr ⟨n.toBinary64, rfl, by rw [if_pos integral]; rfl⟩
  exact (bind_ok_iff _ _ _).mpr ⟨n.toBinary64, read, (within_iff _ _ _).mpr rfl⟩

namespace Normalizer

theorem round_near (x : Binary64)
    (near : -0x8000000000000000 < x.roundAway ∧ x.roundAway < 0x8000000000000000) :
    ∃ fits, roundNumber (.real x) = .whole x.roundAway fits :=
  ⟨JsonNumber.fits_of_signed x.roundAway near, dif_pos near⟩

theorem round_far (x : Binary64)
    (far : ¬(-0x8000000000000000 < x.roundAway ∧ x.roundAway < 0x8000000000000000)) :
    roundNumber (.real x) = .real x := dif_neg far

theorem roundNumber_nearest (n : JsonNumber) :
    ∃ k : Int, NearestAway n.value k ∧ (roundNumber n).value = k ∧
      (roundNumber n).toBinary64.isWhole = true := by
  cases n with
  | whole m fits => exact ⟨m, NearestAway.whole m, rfl, Check.ofInt_isWhole m fits⟩
  | real x =>
      refine ⟨x.roundAway, x.roundAway_nearest, ?_⟩
      by_cases near : -0x8000000000000000 < x.roundAway ∧ x.roundAway < 0x8000000000000000
      · obtain ⟨fits, made⟩ := round_near x near
        rw [made]
        exact ⟨rfl, Check.ofInt_isWhole x.roundAway fits⟩
      · obtain ⟨integral, same⟩ := x.whole_of_far near
        rw [round_far x near]
        exact ⟨same, integral⟩

end Normalizer

-- Every number has one nearest whole number, which rounding makes of it. What is made passes for an
-- integer and stays as it is.
theorem rounded_exactly (n : JsonNumber) :
    ∃ (r : JsonNumber) (k : Int),
      Normalizer.round.apply (.number n) = .number r ∧
      NearestAway n.value k ∧ (∀ other, NearestAway n.value other → other = k) ∧ r.value = k ∧
      (∀ m fits, n = .whole m fits → r = n) ∧
      (∀ x, n = .real x → if -0x8000000000000000 < k ∧ k < 0x8000000000000000
        then ∃ fits, r = .whole k fits else r = n) ∧
      Check.integer (.number r) .unbounded true = .ok () ∧
      Normalizer.round.apply (.number r) = .number r := by
  obtain ⟨k, nearest, value, integral⟩ := Normalizer.roundNumber_nearest n
  have single : ∀ other, NearestAway n.value other → other = k :=
    fun other rounded => NearestAway.unique n.value other k rounded nearest
  refine ⟨Normalizer.roundNumber n, k, rfl, nearest, single, value, ?_, ?_,
    Check.integer_accepts _ integral, congrArg Json.number (Normalizer.roundNumber_again n)⟩
  · rintro m fits rfl
    rfl
  · rintro x rfl
    obtain rfl := single x.roundAway x.roundAway_nearest
    split
    case isTrue near => exact Normalizer.round_near x near
    case isFalse far => exact Normalizer.round_far x far

end EntitySchema

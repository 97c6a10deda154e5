import EntitySchema.Field.Check
import EntitySchema.Proofs.Number.Value
import EntitySchema.Proofs.Outcome

set_option autoImplicit false

namespace EntitySchema

open Binary64

namespace Check

section

variable (n : Int) (fits : -0x8000000000000000 ≤ n ∧ n < 0x10000000000000000)

include fits

theorem ofInt_scaled : (ofInt n).scaled = rounded n * unit := by
  obtain ⟨order, least, power⟩ := unit_order
  rw [power]
  exact ofInt_rounded n (by omega) order least

theorem ofInt_isWhole : (ofInt n).isWhole = true := by
  rw [isWhole, ofInt_scaled n fits, decide_eq_true_eq]
  exact Int.mul_emod_left _ _

theorem whole_number (expected : String) (strict : Bool) :
    whole expected (.number (.whole n fits)) strict = .ok (ofInt n) := by
  have whole := ofInt_isWhole n fits
  exact (bind_ok_iff _ _ _).mpr ⟨ofInt n, rfl, by rw [if_pos whole]; rfl⟩

theorem isEven_ofInt : isEven (ofInt n) = true ↔ 2 ∣ rounded n := by
  rw [isEven, ofInt_scaled n fits, decide_eq_true_eq, ← Int.dvd_iff_emod_eq_zero]
  exact Int.mul_dvd_mul_iff_right (Int.ne_of_gt unit_pos)

theorem truncate_ofInt : (ofInt n).truncate = rounded n := by
  rw [truncate, ofInt_scaled n fits]
  exact Int.mul_tdiv_cancel _ (Int.ne_of_gt unit_pos)

end

theorem formatted_iff (expected : String) (value : Json) (holds : Bool) :
    formatted expected value holds = .ok () ↔ holds = true := by
  cases holds <;> simp [formatted]

theorem within_iff (expected : String) (x : Binary64) (bounds : Bounds) :
    within expected x bounds = .ok () ↔ bounds.contains x = true := by
  unfold within
  split <;> simp [*]

theorem isPowerOfTwo_iff (n : Int) : isPowerOfTwo n = true ↔ ∃ k < 64, n = 2 ^ k := by
  simp only [isPowerOfTwo, Bool.and_eq_true, decide_eq_true_eq]
  constructor
  · rintro ⟨⟨least, most⟩, power⟩
    refine ⟨n.toNat.log2, (Nat.log2_lt (by omega)).mpr (by omega), ?_⟩
    calc n = (n.toNat : Int) := (Int.toNat_of_nonneg (by omega)).symm
      _ = (2 ^ n.toNat.log2 : Nat) := congrArg Int.ofNat power
      _ = 2 ^ n.toNat.log2 := Int.natCast_pow 2 _
  · rintro ⟨k, few, rfl⟩
    have value : ((2 : Int) ^ k) = (2 ^ k : Nat) := (Int.natCast_pow 2 k).symm
    have positive : 0 < 2 ^ k := Nat.two_pow_pos k
    have bounded : 2 ^ k < 2 ^ 64 := Nat.pow_lt_pow_right (by decide) few
    rw [value, Int.toNat_natCast, Nat.log2_two_pow]
    exact ⟨⟨by omega, by omega⟩, rfl⟩

variable (n : Int) (fits : -0x8000000000000000 ≤ n ∧ n < 0x10000000000000000) (strict : Bool)

theorem even_iff (bounds : Bounds) :
    even (.number (.whole n fits)) bounds strict = .ok () ↔ 2 ∣ rounded n := by
  rw [← isEven_ofInt n fits, ← formatted_iff "even integer" (.number (.whole n fits))]
  simp only [even, whole_number n fits]
  rfl

theorem odd_iff (bounds : Bounds) :
    odd (.number (.whole n fits)) bounds strict = .ok () ↔ ¬2 ∣ rounded n := by
  rw [← isEven_ofInt n fits, Bool.not_eq_true, ← Bool.not_eq_true',
    ← formatted_iff "odd integer" (.number (.whole n fits))]
  simp only [odd, whole_number n fits]
  rfl

theorem powerOfTwo_iff (bounds : Bounds) :
    powerOfTwo (.number (.whole n fits)) bounds strict = .ok () ↔ ∃ k < 64, rounded n = 2 ^ k := by
  rw [← isPowerOfTwo_iff, ← truncate_ofInt n fits,
    ← formatted_iff "power of two" (.number (.whole n fits))]
  simp only [powerOfTwo, whole_number n fits]
  rfl

theorem le_iff (x y : Binary64) (v w : Int) (first : x.scaled = v * unit)
    (second : y.scaled = w * unit) : x.le y = true ↔ v ≤ w := by
  rw [le, first, second, decide_eq_true_eq]
  exact Int.mul_le_mul_iff_of_pos_right unit_pos

theorem integer_iff (low high : Int) (least greatest : Binary64)
    (lowest : least.scaled = low * unit) (highest : greatest.scaled = high * unit) :
    integer (.number (.whole n fits)) ⟨some (.number least), some (.number greatest)⟩ strict = .ok () ↔
      low ≤ rounded n ∧ rounded n ≤ high := by
  have scaled := ofInt_scaled n fits
  rw [← le_iff least (ofInt n) _ _ lowest scaled, ← le_iff (ofInt n) greatest _ _ scaled highest,
    ← Bool.and_eq_true]
  simp only [integer, whole_number n fits]
  exact within_iff "integer" (ofInt n) _

theorem whole_checked_as_double :
    Rounds n (rounded n) ∧
      (∀ bounds,
        (even (.number (.whole n fits)) bounds strict = .ok () ↔ 2 ∣ rounded n) ∧
        (odd (.number (.whole n fits)) bounds strict = .ok () ↔ ¬2 ∣ rounded n) ∧
        (powerOfTwo (.number (.whole n fits)) bounds strict = .ok () ↔ ∃ k < 64, rounded n = 2 ^ k)) ∧
      (∀ (low high : Int) (least greatest : Binary64), least.scaled = low * unit →
        greatest.scaled = high * unit →
          let checked := integer (.number (.whole n fits))
            ⟨some (.number least), some (.number greatest)⟩ strict
          (checked = .ok () ↔ low ≤ rounded n ∧ rounded n ≤ high) ∧
            (low ≤ n ∧ n ≤ high → checked = .ok ())) ∧
      (n.natAbs ≤ 2 ^ 53 → rounded n = n) ∧ (2 ^ 53 < n.natAbs → 2 ∣ rounded n) := by
  have rounds := rounded_rounds n
  refine ⟨rounds, ?_, ?_, rounds.small n _, fun many => rounds.large n _ (Nat.le_of_lt many)⟩
  · intro bounds
    exact ⟨even_iff n fits strict bounds, odd_iff n fits strict bounds,
      powerOfTwo_iff n fits strict bounds⟩
  · intro low high least greatest lowest highest checked
    have judged := integer_iff n fits strict low high least greatest lowest highest
    refine ⟨judged, ?_⟩
    rintro ⟨above, below⟩
    obtain ⟨order, exponent, power⟩ := unit_order
    rw [power] at lowest highest
    exact judged.mpr ⟨(rounds.side n _ least low order exponent lowest).1 above,
      (rounds.side n _ greatest high order exponent highest).2 below⟩

def gapNumber : Int := 9007199254740995

theorem gapNumber_fits : -0x8000000000000000 ≤ gapNumber ∧ gapNumber < 0x10000000000000000 := by
  decide

def gapBounds : Bounds := ⟨some (.number (ofInt 9007199254740996)), some (.number (ofInt (2 ^ 60)))⟩

theorem gapNumber_checked :
    Rounds gapNumber 9007199254740996 ∧
      even (.number (.whole gapNumber gapNumber_fits)) .unbounded true = .ok () ∧
      odd (.number (.whole gapNumber gapNumber_fits)) .unbounded true ≠ .ok () ∧
      powerOfTwo (.number (.whole gapNumber gapNumber_fits)) .unbounded true ≠ .ok () ∧
      (ofInt 9007199254740996).scaled = 9007199254740996 * unit ∧
      (ofInt (2 ^ 60)).scaled = 2 ^ 60 * unit ∧
      integer (.number (.whole gapNumber gapNumber_fits)) gapBounds true = .ok () := by
  have near : rounded gapNumber = 9007199254740996 := by decide
  have least : (ofInt 9007199254740996).scaled = 9007199254740996 * unit := by decide +kernel
  have greatest : (ofInt (2 ^ 60)).scaled = 2 ^ 60 * unit := by decide +kernel
  obtain ⟨rounds, each, bounded, _⟩ := whole_checked_as_double gapNumber gapNumber_fits true
  obtain ⟨evenIff, oddIff, powerIff⟩ := each .unbounded
  rw [near] at rounds evenIff oddIff powerIff
  refine ⟨rounds, evenIff.mpr (by decide), ?_, ?_, least, greatest, ?_⟩
  · exact fun accepted => oddIff.mp accepted (by decide)
  · exact fun accepted => absurd (powerIff.mp accepted) (by decide)
  · exact (bounded _ _ _ _ least greatest).1.mpr (by rw [near]; decide)

theorem pastPrecision_fits :
    -0x8000000000000000 ≤ (9007199254740993 : Int) ∧ (9007199254740993 : Int) < 0x10000000000000000 := by
  decide

theorem pastPrecision_taken_for_neighbour :
    (¬(2 : Int) ∣ 9007199254740993 ∧
        even (.number (.whole 9007199254740993 pastPrecision_fits)) .unbounded true = .ok () ∧
        odd (.number (.whole 9007199254740993 pastPrecision_fits)) .unbounded true ≠ .ok ()) ∧
      ((¬∃ k : Nat, (9007199254740993 : Int) = 2 ^ k) ∧
        powerOfTwo (.number (.whole 9007199254740993 pastPrecision_fits)) .unbounded true = .ok ()) ∧
      integer (.number (.whole 9007199254740993 pastPrecision_fits)) (.between 0 9007199254740992) true =
        .ok () := by
  have near : rounded 9007199254740993 = 9007199254740992 := by decide
  refine ⟨⟨by decide, ?_, ?_⟩, ⟨?_, ?_⟩, ?_⟩
  · exact (even_iff _ _ _ _).mpr (by rw [near]; decide)
  · exact fun accepted => (odd_iff _ _ _ _).mp accepted (by rw [near]; decide)
  · rintro ⟨k, power⟩
    cases k with
    | zero => simp at power
    | succ k =>
        rw [Int.pow_succ] at power
        omega
  · exact (powerOfTwo_iff _ _ _ _).mpr ⟨53, by decide, near⟩
  · exact (integer_iff _ _ _ 0 9007199254740992 _ _ (by decide +kernel) (by decide +kernel)).mpr
      (by rw [near]; decide)

end Check

end EntitySchema

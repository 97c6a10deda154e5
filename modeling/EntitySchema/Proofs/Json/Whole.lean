import EntitySchema.Proofs.Json.Text
import EntitySchema.Proofs.Number.Shortest

set_option autoImplicit false

namespace EntitySchema

open Json

theorem Json.gatherDigits_decimal (n : Nat) (fits : n < 0x10000000000000000) :
    gatherDigits 0 (decimalDigits n) = (n, 0) := by
  induction n using Nat.strongRecOn with
  | ind n ih =>
      unfold decimalDigits at ih ⊢
      by_cases small : n < 10
      · simp [Nat.toDigits_of_lt_base small, gatherDigits, Nat.toNat_digitChar_sub_48_of_lt_ten small,
          fits]
      · have tens := ih (n / 10) (by omega) (by omega)
        have last : n % 10 < 10 := Nat.mod_lt n (by decide)
        have whole : n / 10 * 10 + n % 10 = n := by omega
        rw [gatherDigits] at tens
        rw [Nat.toDigits_of_base_le (by decide) (by omega), gatherDigits, List.foldl_append, tens]
        simp [Nat.toNat_digitChar_sub_48_of_lt_ten last, whole, fits]

namespace Binary64

theorem ofNat_whole (n : Nat) (positive : n ≠ 0) (small : n < 2 ^ 53) :
    ofNat n = ⟨false, n * 2 ^ (52 - n.log2), n.log2 - 52, mantissa_canonical n positive small⟩ := by
  have sign : decide ((n : Int) < 0) = false := by simp
  rw [ofNat, ofInt, sign, Int.natAbs_natCast, ofRatio_one false n positive small, Option.getD_some]

theorem tenPower_one : tenPower 1 = ⟨false, 10 * 2 ^ 49, -49, by decide⟩ := by
  decide +kernel

theorem ofScaled_tenth (negative : Bool) (n : Nat) (positive : n ≠ 0) (small : n * 10 < 2 ^ 53) :
    ofScaled? negative (n * 10) (-1) =
      some ⟨negative, n * 2 ^ (52 - n.log2), n.log2 - 52, mantissa_canonical n positive (by omega)⟩ := by
  have total : n * 10 ≠ 0 := by omega
  have most : (n * 10).log2 < 53 := (Nat.log2_lt total).mpr small
  have least : 3 ≤ (n * 10).log2 := (Nat.le_log2 total).mpr (by omega)
  have shift : ((n * 10).log2 : Int) - 52 - -49 = ((n * 10).log2 - 3 : Nat) := by omega
  have mantissa : n * 10 * 2 ^ (52 - (n * 10).log2) ≠ 0 :=
    Nat.mul_ne_zero total (Nat.ne_of_gt (Nat.two_pow_pos _))
  have numerator : n * 10 * 2 ^ (52 - (n * 10).log2) * Nat.pow 2 ((n * 10).log2 - 3) =
      n * (10 * 2 ^ 49) := by
    change n * 10 * 2 ^ (52 - (n * 10).log2) * 2 ^ ((n * 10).log2 - 3) = _
    rw [Nat.mul_assoc (n * 10), ← Nat.pow_add, Nat.mul_assoc]
    congr 3
    omega
  have denominator : 10 * 2 ^ 49 * Nat.pow 2 (-(((n * 10).log2 - 3 : Nat) : Int)).toNat = 10 * 2 ^ 49 := by
    rw [Int.toNat_of_nonpos (by omega)]
    rfl
  have tenth := ofRatio_whole negative n (10 * 2 ^ 49) positive (by decide) (by omega)
  have nonzero : isZero ⟨negative, n * 10 * 2 ^ (52 - (n * 10).log2), (n * 10).log2 - 52,
      mantissa_canonical (n * 10) total small⟩ = false := by
    simpa [isZero] using mantissa
  have places : (-(-1 : Int)).toNat = 1 := rfl
  have below : ¬0 ≤ (-1 : Int) := by decide
  simp only [ofScaled?, ofNat_whole (n * 10) total small, nonzero, below, places, tenPower_one, div?,
    shift, Int.toNat_natCast, numerator, denominator, Bool.bne_false, tenth, Bool.false_eq_true,
    if_false]
  exact if_pos (by decide)

theorem ofInt_whole (k : Int) (nonzero : k.natAbs ≠ 0) (small : k.natAbs < 2 ^ 53) :
    ofInt k = ⟨k < 0, k.natAbs * 2 ^ (52 - k.natAbs.log2), k.natAbs.log2 - 52,
      mantissa_canonical k.natAbs nonzero small⟩ := by
  rw [ofInt, ofRatio_one _ k.natAbs nonzero small, Option.getD_some]

theorem reread_whole (k : Int) (small : k.natAbs ≤ 900719925474099) :
    (ofInt k).reread = some (ofInt k) := by
  by_cases nothing : k.natAbs = 0
  · obtain rfl : k = 0 := by omega
    decide +kernel
  let n := k.natAbs
  have shape := ofInt_whole k nothing (by omega)
  have laid : (ofInt k).jsonText.toList =
      Numeral.chars ⟨k < 0, decimalDigits n, some ['0'], none⟩ := by
    rw [Decimal.jsonText_whole (ofInt k) n (by omega) (by omega) ⟨by rw [shape], by rw [shape]⟩, shape]
    simp [Numeral.chars, Numeral.body, Numeral.fractionChars, Numeral.exponentChars]
  have valid : Numeral.Valid ⟨k < 0, decimalDigits n, some ['0'], none⟩ := by
    refine ⟨decimalDigits_run n, decimalDigits_unpadded n, ?_, by simp⟩
    rintro digits ⟨⟩
    exact ⟨by simp, by simp⟩
  have value : Numeral.value? ⟨k < 0, decimalDigits n, some ['0'], none⟩ = some (.real (ofInt k)) := by
    have tenth := ofScaled_tenth (k < 0) n nothing (by omega)
    have whole := gatherDigits_decimal n (by omega)
    have more : gatherDigits n ['0'] = (n * 10, 0) := by
      simp [gatherDigits]
      omega
    rw [shape, ← Option.map_some (f := JsonNumber.real), ← tenth]
    simp [Numeral.value?, Numeral.exponentValue, numberOf, whole, more]
  have first := Numeral.firstToken_chars _ [] (by rintro c ⟨⟩) valid
  rw [List.append_nil, value] at first
  rw [reread, JsonNumber.reread, JsonNumber.text, laid, first]
  rfl

end Binary64

end EntitySchema

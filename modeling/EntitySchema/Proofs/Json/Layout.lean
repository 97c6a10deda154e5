import EntitySchema.Proofs.Json.Lexing

set_option autoImplicit false

namespace EntitySchema

open Json

theorem decimalDigits_run (n : Nat) : Digits (decimalDigits n) :=
  ⟨Nat.toDigits_ne_nil, fun _ member => Nat.isDigit_of_mem_toDigits (by decide) (by decide) member⟩

theorem digitChar_leading : ∀ n < 10, 0 < n → Nat.digitChar n ≠ '0' := by
  decide

theorem decimalDigits_leading (n : Nat) (positive : 0 < n) :
    (decimalDigits n).head? ≠ some '0' := by
  induction n using Nat.strongRecOn with
  | ind n ih =>
      unfold decimalDigits at ih ⊢
      by_cases small : n < 10
      · rw [Nat.toDigits_of_lt_base small, List.head?_cons]
        exact fun same => digitChar_leading n small positive (Option.some.inj same)
      · have tens := ih (n / 10) (by omega) (by omega)
        obtain ⟨c, digits, shape⟩ :=
          List.exists_cons_of_ne_nil (Nat.toDigits_ne_nil (b := 10) (n := n / 10))
        rw [shape] at tens
        rw [Nat.toDigits_of_base_le (by decide) (by omega), shape]
        exact tens

theorem decimalDigits_unpadded (n : Nat) :
    ¬((decimalDigits n).length > 1 ∧ (decimalDigits n).head? = some '0') := by
  rintro ⟨several, zero⟩
  by_cases positive : 0 < n
  · exact decimalDigits_leading n positive zero
  · obtain rfl : n = 0 := by omega
    exact absurd several (by decide)

namespace Decimal

theorem either_positive (first second : Nat) (place : Int) (fits fits' : Bool) (d : Digits)
    (found : (if 0 < first && fits then some ⟨first, place⟩
      else if 0 < second && fits' then some ⟨second, place⟩ else none) = some d) :
    0 < d.digits := by
  split at found
  · rename_i inside
    cases found
    exact of_decide_eq_true (Bool.and_eq_true_iff.mp inside).1
  · split at found
    · rename_i inside
      cases found
      exact of_decide_eq_true (Bool.and_eq_true_iff.mp inside).1
    · cases found

theorem onGrid_positive (tie : Tie) (num den low high : Nat) (inclusive : Bool) (place : Int)
    (d : Digits) (found : onGrid tie num den low high inclusive place = some d) : 0 < d.digits :=
  either_positive _ _ _ _ _ d found

theorem trim_positive (fuel : Nat) (d : Digits) (positive : 0 < d.digits) :
    0 < (trim fuel d).digits := by
  induction fuel generalizing d with
  | zero => exact positive
  | succ fuel ih =>
      rw [trim]
      split
      · exact ih _ (by simp only; omega)
      · exact positive

theorem first_positive (grids : List Int) (find : Int → Option Digits) (fallback : Digits)
    (each : ∀ place d, find place = some d → 0 < d.digits) (positive : 0 < fallback.digits) :
    0 < ((grids.findSome? find).getD fallback).digits := by
  cases found : grids.findSome? find with
  | none => exact positive
  | some d =>
      obtain ⟨place, _, here⟩ := List.exists_of_findSome?_eq_some found
      exact each place d here

theorem shortest_positive (tie : Tie) (x : Binary64) (nonzero : x.isZero = false) :
    0 < (shortest tie x).digits := by
  have mantissa : 0 < x.mantissa := by
    simpa [Binary64.isZero, Nat.pos_iff_ne_zero] using nonzero
  exact trim_positive _ _ (first_positive _ _ _ (onGrid_positive tie _ _ _ _ _) mantissa)

end Decimal

namespace Json

theorem digits_take (digits : List Char) (n : Nat) (run : Digits digits) (some : 0 < n) :
    Digits (digits.take n) := by
  have given := List.length_pos_iff.mpr run.given
  refine ⟨List.ne_nil_of_length_pos ?_, fun c member => run.each c (List.mem_of_mem_take member)⟩
  rw [List.length_take]
  omega

theorem digits_drop (digits : List Char) (n : Nat) (run : Digits digits) (left : n < digits.length) :
    Digits (digits.drop n) := by
  refine ⟨List.ne_nil_of_length_pos ?_, fun c member => run.each c (List.mem_of_mem_drop member)⟩
  rw [List.length_drop]
  omega

theorem digits_append (before after : List Char) (given : before ++ after ≠ [])
    (first : ∀ c ∈ before, c.isDigit = true) (second : ∀ c ∈ after, c.isDigit = true) :
    Digits (before ++ after) := by
  refine ⟨given, ?_⟩
  intro c member
  rcases List.mem_append.mp member with early | late
  · exact first c early
  · exact second c late

theorem zero_digit (count : Nat) : ∀ c ∈ List.replicate count '0', c.isDigit = true := by
  intro c member
  rw [List.eq_of_mem_replicate member]
  rfl

namespace Numeral

theorem zero_valid (negative : Bool) : Valid ⟨negative, ['0'], some ['0'], none⟩ := by
  have zero : Digits ['0'] := ⟨by simp, by simp⟩
  refine ⟨zero, by simp, ?_, by simp⟩
  rintro digits ⟨⟩
  exact zero

theorem positional_laid_out (negative : Bool) (d : Decimal.Digits) (positive : 0 < d.digits)
    (broken : d.exponent < 0) :
    ∃ n : Numeral, n.Valid ∧ n.negative = negative ∧ n.body = Decimal.positional d := by
  have run := decimalDigits_run d.digits
  let places := (-d.exponent).toNat
  have some : 0 < places := by omega
  let padded :=
    List.replicate (places + 1 - (decimalDigits d.digits).length) '0' ++ decimalDigits d.digits
  have total : padded.length =
      places + 1 - (decimalDigits d.digits).length + (decimalDigits d.digits).length := by
    simp [padded]
  have digits : Digits padded :=
    digits_append _ _ (by simp [run.given]) (zero_digit _) run.each
  let point := padded.length - places
  refine ⟨⟨negative, padded.take point, padded.drop point, none⟩,
    ⟨digits_take padded point digits (by omega), ?_, ?_, by simp⟩, rfl, ?_⟩
  · -- with two digits before the point nothing has been padded
    rintro ⟨several, zero⟩
    simp only [List.length_take, point] at several
    have bare : padded = decimalDigits d.digits := by
      have none : places + 1 - (decimalDigits d.digits).length = 0 := by omega
      simp [padded, none]
    apply decimalDigits_leading d.digits positive
    rw [← bare, ← zero, List.head?_take, if_neg (by simp only [point]; omega)]
  · rintro fraction ⟨⟩
    exact digits_drop padded point digits (by omega)
  · simp [body, fractionChars, exponentChars, Decimal.positional, Int.not_le.mpr broken, padded,
      places, point]

theorem pointZero_laid_out (negative : Bool) (d : Decimal.Digits) (positive : 0 < d.digits)
    (whole : 0 ≤ d.exponent) :
    ∃ n : Numeral, n.Valid ∧ n.negative = negative ∧
      n.body = Decimal.positional d ++ ['.', '0'] := by
  have run := decimalDigits_run d.digits
  have digits : Digits (decimalDigits d.digits ++ List.replicate d.exponent.toNat '0') :=
    digits_append _ _ (by simp [run.given]) run.each (zero_digit _)
  refine ⟨⟨negative, decimalDigits d.digits ++ List.replicate d.exponent.toNat '0', some ['0'], none⟩,
    ⟨digits, ?_, (zero_valid negative).fraction, by simp⟩, rfl, ?_⟩
  · rintro ⟨-, zero⟩
    apply decimalDigits_leading d.digits positive
    obtain ⟨c, digits, shape⟩ := List.exists_cons_of_ne_nil run.given
    simpa [shape] using zero
  · simp [body, fractionChars, exponentChars, Decimal.positional, whole]

theorem scientific_laid_out (negative : Bool) (d : Decimal.Digits) :
    ∃ n : Numeral, n.Valid ∧ n.negative = negative ∧ n.body = Decimal.scientific d := by
  have run := decimalDigits_run d.digits
  have given : 0 < (decimalDigits d.digits).length := List.length_pos_iff.mpr run.given
  let exponent := d.exponent + ((decimalDigits d.digits).length - 1 : Nat)
  refine ⟨⟨negative, (decimalDigits d.digits).take 1,
      if (decimalDigits d.digits).length = 1 then none else some ((decimalDigits d.digits).drop 1),
      some (exponent < 0, decimalDigits exponent.natAbs)⟩,
    ⟨digits_take _ 1 run (by decide), ?_, ?_, ?_⟩, rfl, ?_⟩
  · rintro ⟨several, -⟩
    simp only [List.length_take] at several
    omega
  · intro digits member
    split at member <;> cases member
    exact digits_drop _ 1 run (by omega)
  · rintro part ⟨⟩
    exact decimalDigits_run _
  · by_cases single : (decimalDigits d.digits).length = 1
    · simp [body, fractionChars, exponentChars, Decimal.scientific, single, exponent]
    · simp [body, fractionChars, exponentChars, Decimal.scientific, single, exponent]

theorem real_laid_out (x : Binary64) : ∃ n : Numeral, n.Valid ∧ x.jsonText.toList = n.chars := by
  have signed : ∀ body, (∃ n : Numeral, n.Valid ∧ n.negative = x.negative ∧ n.body = body) →
      ∃ n : Numeral, n.Valid ∧ (if x.negative then '-' :: body else body) = n.chars := by
    rintro body ⟨n, valid, sign, rfl⟩
    exact ⟨n, valid, by rw [chars, sign]⟩
  unfold Binary64.jsonText
  rw [String.toList_ofList]
  apply signed
  split
  case isTrue =>
    exact ⟨⟨x.negative, ['0'], some ['0'], none⟩, zero_valid x.negative, rfl, rfl⟩
  case isFalse nonzero =>
    have positive := Decimal.shortest_positive .toEven x (by simpa using nonzero)
    simp only
    split
    case isFalse => exact scientific_laid_out x.negative _
    split
    case isTrue whole => exact pointZero_laid_out x.negative _ positive whole
    case isFalse broken =>
      exact positional_laid_out x.negative _ positive (Int.not_le.mp broken)

theorem natural_valid (negative : Bool) (n : Nat) : Valid ⟨negative, decimalDigits n, none, none⟩ :=
  ⟨decimalDigits_run n, decimalDigits_unpadded n, by simp, by simp⟩

theorem whole_laid_out (n : Int) : ∃ m : Numeral, m.Valid ∧ (toString n).toList = m.chars := by
  cases n with
  | ofNat k =>
      refine ⟨_, natural_valid false k, ?_⟩
      change (toString k).toList = _
      simp [decimalDigits, chars, body, fractionChars, exponentChars]
  | negSucc k =>
      refine ⟨_, natural_valid true (k + 1), ?_⟩
      change ("-" ++ toString (k + 1)).toList = _
      simp [decimalDigits, chars, body, fractionChars, exponentChars]

theorem number_laid_out (n : JsonNumber) : ∃ m : Numeral, m.Valid ∧ n.text.toList = m.chars := by
  cases n with
  | whole n fits => exact whole_laid_out n
  | real x => exact real_laid_out x

end Numeral

end Json

end EntitySchema

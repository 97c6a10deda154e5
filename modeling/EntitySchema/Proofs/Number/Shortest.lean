import EntitySchema.Number.Decimal
import EntitySchema.Proofs.Number.Whole

set_option autoImplicit false

namespace EntitySchema.Decimal

structure Narrow (n den low high : Nat) : Prop where
  below : low < n * den
  near : n * den < low + den
  above : n * den < high
  close : high < n * den + den

section

variable (n den low high : Nat) (narrow : Narrow n den low high) (inclusive : Bool)

include narrow

theorem inside_iff (point : Nat) :
    (if inclusive then decide (low ≤ point * den) && decide (point * den ≤ high)
      else decide (low < point * den) && decide (point * den < high)) = decide (point = n) := by
  obtain ⟨below, near, above, close⟩ := narrow
  rcases Nat.lt_trichotomy point n with less | rfl | more
  · have apart : point * den + den ≤ n * den := by
      rw [← Nat.succ_mul]
      exact Nat.mul_le_mul_right den less
    have different : point ≠ n := Nat.ne_of_lt less
    cases inclusive <;> simp [different] <;> omega
  · cases inclusive <;> simp <;> omega
  · have apart : n * den + den ≤ point * den := by
      rw [← Nat.succ_mul]
      exact Nat.mul_le_mul_right den more
    have different : point ≠ n := Nat.ne_of_gt more
    cases inclusive <;> simp [different] <;> omega

theorem onGrid_whole (tie : Tie) (positive : 0 < n) (given : 0 < den) (place : Nat) :
    onGrid tie (n * den) den low high inclusive place =
      if 10 ^ place ∣ n then some ⟨n / 10 ^ place, place⟩ else none := by
  have up : Nat.pow 10 (-(place : Int)).toNat = 1 := by
    rw [Int.toNat_of_nonpos (by omega)]
  have step : den * Nat.pow 10 (place : Int).toNat = den * 10 ^ place := by
    rw [Int.toNat_natCast]
    rfl
  have below : n * den * 1 / (den * 10 ^ place) = n / 10 ^ place := by
    rw [Nat.mul_one, Nat.mul_comm n den, Nat.mul_div_mul_left _ _ given]
  have remainder : n * den * 1 % (den * 10 ^ place) = den * (n % 10 ^ place) := by
    rw [Nat.mul_one, Nat.mul_comm n den, Nat.mul_mod_mul_left]
  have inside : ∀ k, (if inclusive then
        decide (low * 1 ≤ k * (den * 10 ^ place)) && decide (k * (den * 10 ^ place) ≤ high * 1)
      else decide (low * 1 < k * (den * 10 ^ place)) && decide (k * (den * 10 ^ place) < high * 1)) =
      decide (k * 10 ^ place = n) := by
    intro k
    have same : k * (den * 10 ^ place) = k * 10 ^ place * den := by
      rw [Nat.mul_comm den, Nat.mul_assoc]
    rw [same, Nat.mul_one, Nat.mul_one]
    exact inside_iff n den low high narrow inclusive (k * 10 ^ place)
  simp only [onGrid, up, step, below, remainder, inside]
  by_cases divides : 10 ^ place ∣ n
  · have unit : 0 < 10 ^ place := Nat.pow_pos (by decide)
    have first : 0 < n / 10 ^ place := Nat.div_pos (Nat.le_of_dvd positive divides) unit
    have width : 0 < den * 10 ^ place := Nat.mul_pos given unit
    simp [divides, Nat.mod_eq_zero_of_dvd divides, width, first, Nat.div_mul_cancel divides]
  · have off : ∀ k, decide (k * 10 ^ place = n) = false := by
      intro k
      apply decide_eq_false
      rintro rfl
      exact divides (Nat.dvd_mul_left _ _)
    simp only [off, Bool.and_false, Bool.false_eq_true, if_false, divides]

end

theorem order_reached : ∀ bits < 50, 2 ^ (bits + 1) ≤ 10 ^ (bits * 30103 / 100000 + 3) := by
  decide

theorem decimalOrder_whole (n den : Nat) (positive : 0 < n) (given : 0 < den) (small : n < 2 ^ 50) :
    ∃ order : Nat, order < 17 ∧ decimalOrder (n * den) den = order + 1 := by
  have bits : n.log2 < 50 := (Nat.log2_lt (by omega)).mpr small
  let low := (n.log2 : Int) * 30103 / 100000 - 1
  let reaches (k : Int) : Bool :=
    if 0 ≤ k then n * den < den * Nat.pow 10 k.toNat else n * den * Nat.pow 10 (-k).toNat < den
  have beyond : ∀ k, reaches k = true → 0 < k := by
    intro k reached
    apply Int.not_le.mp
    intro least
    have many : den ≤ n * den := Nat.le_mul_of_pos_left den positive
    by_cases zero : k = 0
    · simp [reaches, zero] at reached
      omega
    · have negative : ¬0 ≤ k := by omega
      have more : n * den ≤ n * den * Nat.pow 10 (-k).toNat :=
        Nat.le_mul_of_pos_right _ (Nat.pow_pos (by decide))
      simp only [reaches, negative, if_false, decide_eq_true_eq] at reached
      omega
  have last : reaches (low + 4) = true := by
    have top : low + 4 = (n.log2 * 30103 / 100000 + 3 : Nat) := by omega
    have less : n < 10 ^ (n.log2 * 30103 / 100000 + 3) :=
      Nat.lt_of_lt_of_le Nat.lt_log2_self (order_reached n.log2 bits)
    simp only [reaches, top, Int.natCast_nonneg, if_true, Int.toNat_natCast, decide_eq_true_eq]
    rw [Nat.mul_comm n den]
    exact Nat.mul_lt_mul_of_pos_left less given
  have order : decimalOrder (n * den) den =
      (((List.range 5).map fun (i : Nat) => low + i).find? reaches).getD low := by
    simp only [decimalOrder, Binary64.binaryOrder_whole n den (by omega) (by omega)]
    rfl
  cases found : ((List.range 5).map fun (i : Nat) => low + i).find? reaches with
  | none =>
      have missed := List.find?_eq_none.mp found (low + 4) (List.mem_map.mpr ⟨4, by simp, rfl⟩)
      exact absurd last missed
  | some k =>
      obtain ⟨i, inside, rfl⟩ := List.mem_map.mp (List.mem_of_find?_eq_some found)
      have least := beyond _ (List.find?_some found)
      rw [List.mem_range] at inside
      refine ⟨(low + i - 1).toNat, by omega, ?_⟩
      rw [order, found, Option.getD_some]
      omega

theorem found_grid (find : Int → Option Digits) (n : Nat)
    (each : ∀ place : Nat, find place = if 10 ^ place ∣ n then some ⟨n / 10 ^ place, place⟩ else none)
    (start count : Nat) (reaches : start < count) :
    ∃ place : Nat, 10 ^ place ∣ n ∧
      ((List.range count).map fun (i : Nat) => (start : Int) - i).findSome? find =
        some ⟨n / 10 ^ place, place⟩ := by
  induction start generalizing count with
  | zero =>
      obtain ⟨count, rfl⟩ := Nat.exists_eq_add_one_of_ne_zero (Nat.ne_of_gt reaches)
      have found : find (((0 : Nat) : Int) - (0 : Nat)) = some ⟨n / 10 ^ 0, (0 : Nat)⟩ := by
        rw [Int.natCast_zero, Int.sub_zero]
        exact (each 0).trans (if_pos (Nat.one_dvd n))
      refine ⟨0, Nat.one_dvd n, ?_⟩
      rw [List.range_succ_eq_map, List.map_cons, List.findSome?_cons, found]
  | succ start ih =>
      obtain ⟨count, rfl⟩ := Nat.exists_eq_add_one_of_ne_zero (Nat.ne_of_gt (Nat.zero_lt_of_lt reaches))
      have finer : ((List.range count).map Nat.succ).map (fun (i : Nat) => ((start + 1 : Nat) : Int) - i) =
          (List.range count).map fun (i : Nat) => (start : Int) - i := by
        rw [List.map_map]
        apply List.map_congr_left
        intro i member
        simp only [Function.comp]
        omega
      have first : find (((start + 1 : Nat) : Int) - (0 : Nat)) = find (start + 1 : Nat) := by
        rw [Int.natCast_zero, Int.sub_zero]
      rw [List.range_succ_eq_map, List.map_cons, List.findSome?_cons, first, each, finer]
      by_cases stands : 10 ^ (start + 1) ∣ n
      · exact ⟨start + 1, stands, by rw [if_pos stands]⟩
      · rw [if_neg stands]
        exact ih count (by omega)

theorem trim_whole (fuel : Nat) (d : Digits) (zeros : Nat) (coarse : d.exponent = zeros) :
    ∃ more : Nat, (trim fuel d).exponent = more ∧
      (trim fuel d).digits * 10 ^ more = d.digits * 10 ^ zeros := by
  induction fuel generalizing d zeros with
  | zero => exact ⟨zeros, coarse, rfl⟩
  | succ fuel ih =>
      rw [trim]
      split
      case isFalse => exact ⟨zeros, coarse, rfl⟩
      case isTrue round =>
        obtain ⟨more, exponent, value⟩ := ih ⟨d.digits / 10, d.exponent + 1⟩ (zeros + 1) (by simp [coarse])
        refine ⟨more, exponent, ?_⟩
        rw [value, Nat.pow_succ', ← Nat.mul_assoc, Nat.div_mul_cancel (Nat.dvd_of_mod_eq_zero round)]

theorem decimalDigits_zeros (n zeros : Nat) (positive : 0 < n) :
    decimalDigits (n * 10 ^ zeros) = decimalDigits n ++ List.replicate zeros '0' := by
  induction zeros with
  | zero => simp
  | succ zeros ih =>
      have unit : 0 < 10 ^ zeros := Nat.pow_pos (by decide)
      have product : 0 < n * 10 ^ zeros := Nat.mul_pos positive unit
      have shape : n * 10 ^ (zeros + 1) = n * 10 ^ zeros * 10 := by rw [Nat.pow_succ, Nat.mul_assoc]
      unfold decimalDigits at ih ⊢
      rw [shape, Nat.toDigits_of_base_le (by decide) (by omega), Nat.mul_div_cancel _ (by decide), ih,
        Nat.mul_mod_left, List.append_assoc, List.replicate_succ']
      rfl

structure IsWhole (x : Binary64) (n : Nat) : Prop where
  mantissa : x.mantissa = n * 2 ^ (52 - n.log2)
  exponent : x.exponent = n.log2 - 52

section

variable (x : Binary64) (n : Nat) (positive : 0 < n) (small : n < 2 ^ 50) (whole : IsWhole x n)

include positive small whole

theorem shortest_whole (tie : Tie) :
    ∃ zeros : Nat, (shortest tie x).exponent = zeros ∧ (shortest tie x).digits * 10 ^ zeros = n := by
  have bits : n.log2 < 50 := (Nat.log2_lt (by omega)).mpr small
  have up : Nat.pow 2 x.exponent.toNat = 1 := by
    rw [whole.exponent, Int.toNat_of_nonpos (by omega)]
  have shift : (-x.exponent).toNat = 52 - n.log2 := by
    rw [whole.exponent]
    omega
  let den := Nat.pow 2 (52 - n.log2) * 4
  have room : 32 ≤ den := by
    have least : 2 ^ 3 ≤ 2 ^ (52 - n.log2) := Nat.pow_le_pow_right (by decide) (by omega)
    exact Nat.mul_le_mul_right 4 least
  have value : x.mantissa * 4 = n * den := by
    rw [whole.mantissa, Nat.mul_assoc]
    rfl
  obtain ⟨order, top, same⟩ := decimalOrder_whole n den positive (by omega) small
  have many : den ≤ n * den := Nat.le_mul_of_pos_left den positive
  have narrow : ∀ margin, 0 < margin → margin ≤ 2 → Narrow n den (n * den - margin) (n * den + 2) := by
    intro margin some few
    exact ⟨by omega, by omega, by omega, by omega⟩
  have margin : Narrow n den
      (n * den - if x.mantissa = 0x10000000000000 ∧ -1074 < x.exponent then 1 else 2) (n * den + 2) := by
    split <;> exact narrow _ (by decide) (by decide)
  have grids : (List.range 17).map (fun (i : Nat) => ((order : Int) + 1) - 1 - i) =
      (List.range 17).map fun (i : Nat) => (order : Int) - i := by
    simp
  obtain ⟨place, stands, found⟩ := found_grid _ n
    (onGrid_whole n den _ _ margin (decide (x.mantissa % 2 = 0)) tie positive (by omega)) order 17 top
  have digits : shortest tie x = trim 20 ⟨n / 10 ^ place, place⟩ := by
    simp only [shortest, up, shift, Nat.mul_one]
    rw [value, same, grids, found, Option.getD_some]
  obtain ⟨zeros, exponent, total⟩ := trim_whole 20 ⟨n / 10 ^ place, place⟩ place rfl
  refine ⟨zeros, by rw [digits, exponent], ?_⟩
  rw [digits, total, Nat.div_mul_cancel stands]

theorem jsonText_whole :
    x.jsonText.toList =
      if x.negative then '-' :: (decimalDigits n ++ ['.', '0']) else decimalDigits n ++ ['.', '0'] := by
  obtain ⟨zeros, exponent, value⟩ := shortest_whole x n positive small whole .toEven
  have nonzero : x.isZero = false := by
    have mantissa : x.mantissa ≠ 0 := by
      rw [whole.mantissa]
      exact Nat.mul_ne_zero (by omega) (Nat.ne_of_gt (Nat.two_pow_pos _))
    simpa [Binary64.isZero] using mantissa
  have some : 0 < (shortest .toEven x).digits := by
    apply Nat.pos_of_ne_zero
    intro none
    rw [none, Nat.zero_mul] at value
    omega
  have layout := decimalDigits_zeros (shortest .toEven x).digits zeros some
  rw [value] at layout
  have length : (decimalDigits (shortest .toEven x).digits).length + zeros ≤ 16 := by
    have fewer : (decimalDigits n).length ≤ 16 :=
      (Nat.length_toDigits_le_iff (by decide) (by decide)).mpr (by omega)
    simpa [layout] using fewer
  have given : 0 < (decimalDigits (shortest .toEven x).digits).length := Nat.length_toDigits_pos
  have plain : -5 ≤ (zeros : Int) + ((decimalDigits (shortest .toEven x).digits).length - 1 : Nat) ∧
      (zeros : Int) + ((decimalDigits (shortest .toEven x).digits).length - 1 : Nat) ≤ 15 := by
    omega
  have text : positional (shortest .toEven x) = decimalDigits n := by
    simp [positional, exponent, layout]
  unfold Binary64.jsonText
  simp only [nonzero, exponent, plain, Int.natCast_nonneg, text, String.toList_ofList]
  simp

end

end EntitySchema.Decimal

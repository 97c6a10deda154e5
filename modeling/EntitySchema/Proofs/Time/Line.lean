import EntitySchema.Proofs.Number.Value
import EntitySchema.Time.Instant
import Mathlib.Data.Prod.Lex
import Mathlib.Tactic.Linarith

set_option autoImplicit false

namespace EntitySchema.Instant

def point (t : Instant) : ℤ ×ₗ ℚ := toLex (t.second, (t.nano : ℚ))

def pointOf (millis : ℚ) : ℤ ×ₗ ℚ :=
  toLex (⌊millis / 1000⌋, (millis - 1000 * ⌊millis / 1000⌋) * 1000000)

theorem le_iff_point (s t : Instant) : s.le t = true ↔ s.point ≤ t.point := by
  simp only [le, Bool.or_eq_true, Bool.and_eq_true, decide_eq_true_eq, point, Prod.Lex.toLex_le_toLex,
    Nat.cast_le]

theorem pointOf_lt {a b : ℚ} (less : a < b) : pointOf a < pointOf b := by
  have seconds : ⌊a / 1000⌋ ≤ ⌊b / 1000⌋ :=
    Int.floor_mono (div_le_div_of_nonneg_right less.le (Nat.cast_nonneg 1000))
  rw [pointOf, pointOf, Prod.Lex.toLex_lt_toLex]
  rcases Int.lt_or_eq_of_le seconds with earlier | same
  · exact .inl earlier
  · rw [same]
    exact .inr ⟨rfl, mul_lt_mul_of_pos_right (sub_lt_sub_right less _) (Nat.cast_pos.mpr (by decide))⟩

theorem pointOf_le {a b : ℚ} (le : a ≤ b) : pointOf a ≤ pointOf b := by
  rcases eq_or_lt_of_le le with rfl | less
  · exact le_rfl
  · exact le_of_lt (pointOf_lt less)

theorem floor_seconds (millis : Int) : ⌊(millis : ℚ) / 1000⌋ = millis / 1000 :=
  Rat.floor_intCast_div_natCast millis 1000

theorem pointOf_whole (millis : Int) :
    pointOf millis = toLex (millis / 1000, ((millis % 1000 * 1000000 : Int) : ℚ)) := by
  have parts : millis % 1000 = millis - 1000 * (millis / 1000) := Int.emod_def millis 1000
  rw [pointOf, floor_seconds, parts]
  push_cast
  rfl

theorem point_ofMillis (millis : Int) (t : Instant) (read : ofMillis? millis = some t) :
    t.point = pointOf millis := by
  obtain ⟨-, ⟨⟩⟩ := Option.ite_none_right_eq_some.mp read
  have nanos : (((millis % 1000).toNat * 1000000 : Nat) : Int) = millis % 1000 * 1000000 := by omega
  rw [point, pointOf_whole, Int.fdiv_eq_ediv_of_nonneg _ (by decide),
    Int.fmod_eq_emod_of_nonneg _ (by decide), ← nanos, Int.cast_natCast]

-- The number of milliseconds that an instant is behind the start of 1970, which for leap seconds runs
-- ahead of the line.
def elapsed (t : Instant) : ℚ := 1000 * t.second + t.nano / 1000000

theorem point_of_elapsed (t : Instant) (ordinary : t.nano < billion) : t.point = pointOf t.elapsed := by
  have few : (t.nano : ℚ) < 1000000000 := by exact_mod_cast ordinary
  have nonneg : (0 : ℚ) ≤ t.nano := Nat.cast_nonneg t.nano
  have second : ⌊t.elapsed / 1000⌋ = t.second := by
    rw [Int.floor_eq_iff, elapsed]
    constructor <;> linarith
  rw [point, pointOf, second, elapsed]
  congr 2
  ring

def firstMilli : Int := minSecond * 1000
def lastMilli : Int := maxSecond * 1000 + 999

theorem ofMillis_isSome_iff (millis : Int) :
    (ofMillis? millis).isSome = true ↔ firstMilli ≤ millis ∧ millis ≤ lastMilli := by
  rw [ofMillis?, firstMilli, lastMilli]
  simp only [inRange, Int.fdiv_eq_ediv_of_nonneg _ (by decide : (0 : Int) ≤ 1000), Bool.and_eq_true,
    decide_eq_true_eq]
  split
  case isTrue within => exact iff_of_true rfl (by omega)
  case isFalse beyond => exact iff_of_false (by simp) (by omega)

theorem ofMillis_inRange (millis : Int) (t : Instant) (read : ofMillis? millis = some t) :
    t.inRange = true := by
  obtain ⟨within, ⟨⟩⟩ := Option.ite_none_right_eq_some.mp read
  exact within

theorem milli_small : -2 ^ 53 < firstMilli ∧ firstMilli < 0 ∧ 0 < lastMilli ∧ lastMilli < 2 ^ 53 := by
  decide

theorem ofMillis_none (millis : Int) (beyond : ¬(firstMilli ≤ millis ∧ millis ≤ lastMilli)) :
    ofMillis? millis = none := by
  rwa [← ofMillis_isSome_iff, Option.not_isSome_iff_eq_none] at beyond

theorem ofMillis_clampInto (x : Binary64) :
    ofMillis? (x.clampInto (-0x8000000000000000) 0x7FFFFFFFFFFFFFFF) = ofMillis? x.truncate := by
  have few := milli_small
  rw [Binary64.clampInto]
  by_cases inside : firstMilli ≤ x.truncate ∧ x.truncate ≤ lastMilli
  · congr 1
    omega
  · rw [ofMillis_none x.truncate inside, ofMillis_none _ (by omega)]

section

variable (t : Instant) (within : t.inRange = true)

include within

theorem inRange_seconds : minSecond ≤ t.second ∧ t.second ≤ maxSecond := by
  simpa [inRange] using within

theorem inRange_after : pointOf firstMilli ≤ t.point := by
  have start : firstMilli / 1000 = minSecond ∧ firstMilli % 1000 = 0 := by
    rw [firstMilli]
    omega
  have later := (inRange_seconds t within).1
  rw [pointOf_whole, start.1, start.2, point, Prod.Lex.toLex_le_toLex]
  rcases Int.lt_or_eq_of_le later with less | same
  · exact .inl less
  · exact .inr ⟨same, by simp⟩

theorem inRange_before : t.point < pointOf (lastMilli + 1 : Int) := by
  have next : (lastMilli + 1) / 1000 = maxSecond + 1 := by
    rw [lastMilli]
    omega
  have earlier := (inRange_seconds t within).2
  rw [pointOf_whole, next, point, Prod.Lex.toLex_lt_toLex]
  exact .inl (Int.lt_add_one_of_le earlier)

end

end EntitySchema.Instant

import EntitySchema.Proofs.Field.Numeric
import EntitySchema.Proofs.Time.Line
import EntitySchema.Proofs.Time.Range

/-!
# Dates under bounds

Dates and timestamps are held to bounds whose sides are dates or numbers of milliseconds. A number
stands for the instant of its whole part, and for none where that lies beyond all instants; a side that
stands for no instant holds nothing back.
-/

set_option autoImplicit false

namespace EntitySchema

open Instant

namespace Limit

def point : Limit → ℤ ×ₗ ℚ
  | .number x => pointOf x.value
  | .date t => t.point

-- The lower sides that are held to: a number is lost behind the last instant, and a fraction of a
-- positive one is cut off.
def KeptBelow : Limit → Prop
  | .number x => x.truncate ≤ lastMilli ∧ (x.value ≤ 0 ∨ x.isWhole = true)
  | .date _ => True

def KeptAbove : Limit → Prop
  | .number x => firstMilli ≤ x.truncate ∧ (0 ≤ x.value ∨ x.isWhole = true)
  | .date _ => True

theorem toInstant_number (x : Binary64) : (number x).toInstant? = ofMillis? x.truncate :=
  ofMillis_clampInto x

theorem pointOf_toInstant (x : Binary64) (s : Instant) (read : (number x).toInstant? = some s) :
    s.point = pointOf x.truncate :=
  point_ofMillis x.truncate s (toInstant_number x ▸ read)

theorem toInstant_of_inside (x : Binary64) (first : firstMilli ≤ x.truncate)
    (last : x.truncate ≤ lastMilli) : ∃ s, (number x).toInstant? = some s := by
  rw [toInstant_number]
  exact Option.isSome_iff_exists.mp ((ofMillis_isSome_iff x.truncate).mpr ⟨first, last⟩)

section

variable (l : Limit) (t : Instant) (within : t.inRange = true)

include within

theorem point_le_of_kept (kept : l.KeptBelow)
    (held : ∀ s, l.toInstant? = some s → s.point ≤ t.point) : l.point ≤ t.point := by
  cases l with
  | date s => exact held s rfl
  | number x =>
      obtain ⟨reached, settled⟩ := kept
      have below : x.value ≤ x.truncate :=
        settled.elim x.value_le_truncate fun whole => (x.isWhole_iff.mp whole).le
      refine le_trans (pointOf_le below) ?_
      rcases lt_or_ge x.truncate firstMilli with early | represented
      · have before : (x.truncate : ℚ) ≤ firstMilli := Int.cast_le.mpr (Int.le_of_lt early)
        exact le_trans (pointOf_le before) (inRange_after t within)
      · obtain ⟨s, read⟩ := toInstant_of_inside x represented reached
        exact pointOf_toInstant x s read ▸ held s read

theorem le_point_of_kept (kept : l.KeptAbove)
    (held : ∀ s, l.toInstant? = some s → t.point ≤ s.point) : t.point ≤ l.point := by
  cases l with
  | date s => exact held s rfl
  | number x =>
      obtain ⟨reached, settled⟩ := kept
      have above : (x.truncate : ℚ) ≤ x.value :=
        settled.elim x.truncate_le_value fun whole => (x.isWhole_iff.mp whole).ge
      refine le_trans ?_ (pointOf_le above)
      rcases lt_or_ge lastMilli x.truncate with late | represented
      · have after : ((lastMilli + 1 : Int) : ℚ) ≤ x.truncate := Int.cast_le.mpr late
        exact le_trans (inRange_before t within).le (pointOf_le after)
      · obtain ⟨s, read⟩ := toInstant_of_inside x reached represented
        exact pointOf_toInstant x s read ▸ held s read

end

theorem exists_below (l : Limit) (lost : ¬l.KeptBelow) :
    ∃ n : Int, firstMilli ≤ n ∧ n ≤ lastMilli ∧ pointOf n < l.point ∧
      ∀ s, l.toInstant? = some s → s.point ≤ pointOf n := by
  cases l with
  | date s => exact absurd trivial lost
  | number x =>
      have few := milli_small
      have positive : 0 < x.value := by
        by_contra nonpos
        have least := (x.truncate_side 0).2 (by simpa using nonpos)
        exact lost ⟨by omega, .inl (not_lt.mp nonpos)⟩
      have cut := x.truncate_le_value positive.le
      have least := (x.truncate_side 0).1 (by simpa using positive.le)
      by_cases reached : x.truncate ≤ lastMilli
      · have fraction : (x.truncate : ℚ) ≠ x.value := fun same =>
          lost ⟨reached, .inr (x.isWhole_iff.mpr same.symm)⟩
        exact ⟨x.truncate, by omega, reached, pointOf_lt (lt_of_le_of_ne cut fraction),
          fun s read => (pointOf_toInstant x s read).le⟩
      · have behind : (lastMilli : ℚ) < x.truncate := Int.cast_lt.mpr (not_le.mp reached)
        have ignored : (number x).toInstant? = none := by
          rw [toInstant_number, ofMillis_none _ fun inside => reached inside.2]
        exact ⟨lastMilli, by omega, le_rfl, pointOf_lt (behind.trans_le cut), by simp [ignored]⟩

theorem exists_above (l : Limit) (lost : ¬l.KeptAbove) :
    ∃ n : Int, firstMilli ≤ n ∧ n ≤ lastMilli ∧ l.point < pointOf n ∧
      ∀ s, l.toInstant? = some s → pointOf n ≤ s.point := by
  cases l with
  | date s => exact absurd trivial lost
  | number x =>
      have few := milli_small
      have negative : x.value < 0 := by
        by_contra nonneg
        have least := (x.truncate_side 0).1 (by simpa using nonneg)
        exact lost ⟨by omega, .inl (not_lt.mp nonneg)⟩
      have cut := x.value_le_truncate negative.le
      have most := (x.truncate_side 0).2 (by simpa using negative.le)
      by_cases reached : firstMilli ≤ x.truncate
      · have fraction : x.value ≠ x.truncate := fun same =>
          lost ⟨reached, .inr (x.isWhole_iff.mpr same)⟩
        exact ⟨x.truncate, reached, by omega, pointOf_lt (lt_of_le_of_ne cut fraction),
          fun s read => (pointOf_toInstant x s read).ge⟩
      · have before : (x.truncate : ℚ) < firstMilli := Int.cast_lt.mpr (not_le.mp reached)
        have ignored : (number x).toInstant? = none := by
          rw [toInstant_number, ofMillis_none _ fun inside => reached inside.1]
        exact ⟨firstMilli, le_rfl, by omega, pointOf_lt (cut.trans_lt before), by simp [ignored]⟩

end Limit

theorem containsInstant_iff (b : Bounds) (t : Instant) :
    b.containsInstant t = true ↔
      (∀ low, b.min = some low → ∀ s, low.toInstant? = some s → s.point ≤ t.point) ∧
        ∀ high, b.max = some high → ∀ s, high.toInstant? = some s → t.point ≤ s.point := by
  simp only [Bounds.containsInstant, Bool.and_eq_true, Option.all_eq_true, Option.bind_eq_some_iff,
    le_iff_point]
  constructor
  · rintro ⟨after, before⟩
    exact ⟨fun low least s read => after s ⟨low, least, read⟩,
      fun high greatest s read => before s ⟨high, greatest, read⟩⟩
  · rintro ⟨after, before⟩
    refine ⟨?_, ?_⟩
    · rintro s ⟨low, least, read⟩
      exact after low least s read
    · rintro s ⟨high, greatest, read⟩
      exact before high greatest s read

def Json.date? : Json → Option Instant
  | .string s => Instant.parse? s
  | .number n => n.toInt64?.bind ofMillis?
  | _ => none

def Json.timestamp? (value : Json) : Option Instant :=
  value.reading?.bind fun x => if x.isWhole then ofMillis? x.truncate else none

namespace Check

inductive Dated : Check → (Json → Option Instant) → (Json → Bool) → Prop where
  | date : Dated Check.date Json.date? fun value => !value.isNumber
  | timestamp : Dated Check.timestamp Json.timestamp? Json.isNumber

theorem withinInstants_iff (expected : String) (t : Instant) (bounds : Bounds) :
    withinInstants expected t bounds = .ok () ↔ bounds.containsInstant t = true := by
  unfold withinInstants
  split <;> simp [*]

theorem found_iff (expected : String) (value : Json) (given : Option Instant) (t : Instant) :
    found expected value given = .ok t ↔ given = some t := by
  cases given <;> simp [found]

variable {check : Check} {denotes : Json → Option Instant} {firm : Json → Bool}

theorem dated_iff (dated : Dated check denotes firm) (value : Json) (bounds : Bounds) (strict : Bool) :
    check value bounds strict = .ok () ↔
      (strict = true → firm value = true) ∧
        ∃ t, denotes value = some t ∧ bounds.containsInstant t = true := by
  cases dated with
  | date =>
      cases value with
      | string s =>
          simp [Check.date, bind_ok_iff, found_iff, withinInstants_iff, Json.date?, Json.isNumber]
      | number n =>
          cases strict <;>
            simp [Check.date, bind_ok_iff, found_iff, withinInstants_iff, Json.date?, Json.isNumber]
      | _ => simp [Check.date, bind_ok_iff, Json.date?]
  | timestamp =>
      simp only [Check.timestamp, bind_ok_iff, withinInstants_iff, whole_iff, numeric_iff, found_iff,
        ofMillis_clampInto, Json.timestamp?, Option.bind_eq_some_iff, Option.ite_none_right_eq_some]
      constructor
      · rintro ⟨x, ⟨⟨reading, admitted⟩, integral⟩, t, read, contained⟩
        exact ⟨admitted, t, ⟨x, reading, integral, read⟩, contained⟩
      · rintro ⟨admitted, t, ⟨x, reading, integral, read⟩, contained⟩
        exact ⟨x, ⟨⟨reading, admitted⟩, integral⟩, t, read, contained⟩

theorem dated_inRange (dated : Dated check denotes firm) (value : Json) (t : Instant)
    (read : denotes value = some t) : t.inRange = true := by
  cases dated with
  | date =>
      cases value with
      | string s => exact parse_inRange s read
      | number n =>
          obtain ⟨millis, -, read⟩ := Option.bind_eq_some_iff.mp read
          exact ofMillis_inRange millis t read
      | _ => cases read
  | timestamp =>
      obtain ⟨x, -, read⟩ := Option.bind_eq_some_iff.mp read
      exact ofMillis_inRange _ t (Option.ite_none_right_eq_some.mp read).2

theorem dated_whole (dated : Dated check denotes firm) (n : Int) (first : firstMilli ≤ n)
    (last : n ≤ lastMilli) : ∃ value t, denotes value = some t ∧ t.point = pointOf n := by
  have few := milli_small
  have fits : -0x8000000000000000 ≤ n ∧ n < 0x10000000000000000 := by omega
  obtain ⟨t, read⟩ := Option.isSome_iff_exists.mp ((ofMillis_isSome_iff n).mpr ⟨first, last⟩)
  refine ⟨.number (.whole n fits), t, ?_, point_ofMillis n t read⟩
  cases dated with
  | date =>
      have word : n < 0x8000000000000000 := by omega
      simp [Json.date?, JsonNumber.toInt64?, word, read]
  | timestamp =>
      have exact : Binary64.rounded n = n := (Binary64.rounded_rounds n).small n _ (by omega)
      simp [Json.timestamp?, Json.reading?, JsonNumber.toBinary64, ofInt_isWhole n fits,
        truncate_ofInt n fits, exact, read]

-- A value that is accepted keeps to the sides that are held to; every other side is passed by some
-- value that is accepted.
theorem dates_bounded (dated : Dated check denotes firm) :
    (∀ value bounds strict, check value bounds strict = .ok () →
        ∃ t, denotes value = some t ∧
          (∀ low, bounds.min = some low → low.KeptBelow → low.point ≤ t.point) ∧
          ∀ high, bounds.max = some high → high.KeptAbove → t.point ≤ high.point) ∧
      (∀ low, ¬low.KeptBelow → ∃ value t, check value ⟨some low, none⟩ false = .ok () ∧
        denotes value = some t ∧ t.point < low.point) ∧
      ∀ high, ¬high.KeptAbove → ∃ value t, check value ⟨none, some high⟩ false = .ok () ∧
        denotes value = some t ∧ high.point < t.point := by
  refine ⟨?_, ?_, ?_⟩
  · intro value bounds strict accepted
    obtain ⟨-, t, read, contained⟩ := (dated_iff dated value bounds strict).mp accepted
    have within := dated_inRange dated value t read
    obtain ⟨after, before⟩ := (containsInstant_iff bounds t).mp contained
    exact ⟨t, read, fun low least kept => low.point_le_of_kept t within kept (after low least),
      fun high greatest kept => high.le_point_of_kept t within kept (before high greatest)⟩
  · intro low lost
    obtain ⟨n, first, last, below, passes⟩ := low.exists_below lost
    obtain ⟨value, t, read, place⟩ := dated_whole dated n first last
    rw [← place] at below passes
    refine ⟨value, t, (dated_iff dated value _ false).mpr ⟨by simp, t, read, ?_⟩, read, below⟩
    refine (containsInstant_iff _ t).mpr ⟨?_, by simp⟩
    rintro _ ⟨⟩
    exact passes
  · intro high lost
    obtain ⟨n, first, last, above, passes⟩ := high.exists_above lost
    obtain ⟨value, t, read, place⟩ := dated_whole dated n first last
    rw [← place] at above passes
    refine ⟨value, t, (dated_iff dated value _ false).mpr ⟨by simp, t, read, ?_⟩, read, above⟩
    refine (containsInstant_iff _ t).mpr ⟨by simp, ?_⟩
    rintro _ ⟨⟩
    exact passes

def inSpring : Json := .string "2024-03-01"

def thatYear : Bounds := ⟨some (.number (.ofInt (-1))), some (.date ⟨1735603200, 0⟩)⟩

theorem thatYear_bounded :
    Dated Check.date Json.date? (fun value => !value.isNumber) ∧
      Check.date inSpring thatYear true = .ok () ∧
      ∃ t, Json.date? inSpring = some t ∧ (Limit.number (.ofInt (-1))).point ≤ t.point ∧
        t.point ≤ (Limit.date ⟨1735603200, 0⟩).point := by
  have accepted : Check.date inSpring thatYear true = .ok () :=
    (dated_iff .date inSpring thatYear true).mpr ⟨fun _ => rfl, ⟨1709251200, 0⟩, by decide +kernel⟩
  have least : (Binary64.ofInt (-1)).value ≤ 0 := by
    rw [Binary64.value_nonpos_iff]
    decide +kernel
  obtain ⟨t, read, after, before⟩ := (dates_bounded .date).1 inSpring thatYear true accepted
  exact ⟨.date, accepted, t, read, after _ rfl ⟨by decide +kernel, .inl least⟩, before _ rfl trivial⟩

def farLimit : Limit := .number (.ofInt (10 ^ 16))

def half : Binary64 := ⟨false, 0x10000000000000, -53, by decide⟩

theorem farLimit_point : farLimit.point = pointOf ((10 ^ 16 : Int) : ℚ) :=
  congrArg pointOf ((Binary64.value_eq_iff _ _).mpr (by decide +kernel))

theorem half_value : half.value = 1 / 2 :=
  half.value_eq_div 1 2 (by decide) (by decide +kernel)

theorem sides_not_held :
    (∃ t, Json.date? inSpring = some t ∧ Check.date inSpring ⟨some farLimit, none⟩ false = .ok () ∧
        t.point < farLimit.point) ∧
      ∃ t, Json.timestamp? (.ofNat 0) = some t ∧
        Check.timestamp (.ofNat 0) ⟨some (.number half), none⟩ false = .ok () ∧
          t.point < (Limit.number half).point := by
  constructor
  · have read : Json.date? inSpring = some ⟨1709251200, 0⟩ := by decide +kernel
    refine ⟨_, read, (dated_iff .date _ _ _).mpr ⟨by simp, _, read, by decide +kernel⟩, ?_⟩
    rw [point_of_elapsed _ (by decide), farLimit_point]
    refine pointOf_lt ?_
    norm_num [elapsed]
  · have read : Json.timestamp? (.ofNat 0) = some ⟨0, 0⟩ := by decide +kernel
    refine ⟨_, read, (dated_iff .timestamp _ _ _).mpr ⟨by simp, _, read, by decide +kernel⟩, ?_⟩
    rw [point_of_elapsed _ (by decide), Limit.point, half_value]
    refine pointOf_lt ?_
    norm_num [elapsed]

end Check

end EntitySchema

import EntitySchema.Proofs.Field.Dates

set_option autoImplicit false

namespace EntitySchema

open Instant

namespace Binary64

theorem rounded_side (n v : Int) (few : v.natAbs ≤ 2 ^ 53) :
    (v ≤ n → v ≤ rounded n) ∧ (n ≤ v → rounded n ≤ v) := by
  obtain ⟨order, least⟩ : ∃ order, order = 1074 := ⟨_, rfl⟩
  have scaled := ofInt_rounded v (by omega) order least
  rw [(rounded_rounds v).small v _ few] at scaled
  exact (rounded_rounds n).side n _ (ofInt v) v order least scaled

end Binary64

theorem ofMillis_rounded (n : Int) : ofMillis? (Binary64.rounded n) = ofMillis? n := by
  have few := milli_small
  by_cases inside : firstMilli ≤ n ∧ n ≤ lastMilli
  · rw [(Binary64.rounded_rounds n).small n _ (by omega)]
  · have before := (Binary64.rounded_side n (firstMilli - 1) (by omega)).2
    have after := (Binary64.rounded_side n (lastMilli + 1) (by omega)).1
    rw [ofMillis_none n inside, ofMillis_none _ (by omega)]

namespace Check

def judged (expected : String) (value : Json) (instant : Option Instant) (bounds : Bounds) :
    Except Violation Unit := do
  withinInstants expected (← found expected value instant) bounds

theorem judged_iff (expected : String) (value : Json) (instant : Option Instant) (bounds : Bounds) :
    judged expected value instant bounds = .ok () ↔
      ∃ t, instant = some t ∧ bounds.containsInstant t = true := by
  simp only [judged, bind_ok_iff, found_iff, withinInstants_iff]

theorem judged_refused (expected : String) (value : Json) (instant : Option Instant) (bounds : Bounds)
    (fault : Violation) (refused : judged expected value instant bounds = .error fault) :
    fault.kind = if instant.isSome then "OutOfRange" else "Format" := by
  cases instant with
  | none => cases refused; rfl
  | some t =>
      change withinInstants expected t bounds = .error fault at refused
      unfold withinInstants at refused
      split at refused <;> cases refused
      rfl

section

variable (n : Int) (fits : -0x8000000000000000 ≤ n ∧ n < 0x10000000000000000)

theorem toInt64_instant : (JsonNumber.whole n fits).toInt64?.bind ofMillis? = ofMillis? n := by
  have few := milli_small
  rw [JsonNumber.toInt64?]
  split
  · rfl
  · exact (ofMillis_none n (by omega)).symm

theorem date_millis (bounds : Bounds) :
    date (.number (.whole n fits)) bounds false =
      judged "date" (.number (.whole n fits)) (ofMillis? n) bounds := by
  rw [← toInt64_instant n fits]
  rfl

theorem timestamp_millis (bounds : Bounds) (strict : Bool) :
    timestamp (.number (.whole n fits)) bounds strict =
      judged "timestamp" (.number (.whole n fits)) (ofMillis? n) bounds := by
  rw [← ofMillis_rounded n, ← truncate_ofInt n fits, ← ofMillis_clampInto]
  simp only [timestamp, whole_number n fits]
  rfl

-- Both checks ask the same of a number, and refuse it alike: for want of an instant, or for the bounds.
theorem millis_judged_alike (bounds : Bounds) (strict : Bool) :
    (date (.number (.whole n fits)) bounds false = .ok () ↔
        timestamp (.number (.whole n fits)) bounds strict = .ok ()) ∧
      (date (.number (.whole n fits)) bounds false = .ok () ↔
        ∃ t, ofMillis? n = some t ∧ bounds.containsInstant t = true) ∧
      ∀ fault other, date (.number (.whole n fits)) bounds false = .error fault →
        timestamp (.number (.whole n fits)) bounds strict = .error other →
          fault.kind = other.kind ∧
            fault.kind = if firstMilli ≤ n ∧ n ≤ lastMilli then "OutOfRange" else "Format" := by
  rw [date_millis, timestamp_millis, judged_iff, judged_iff]
  refine ⟨Iff.rfl, Iff.rfl, ?_⟩
  intro fault other refused refusedToo
  have kind := judged_refused _ _ _ _ fault refused
  have same := judged_refused _ _ _ _ other refusedToo
  simp only [ofMillis_isSome_iff] at kind same
  exact ⟨kind.trans same.symm, kind⟩

end

theorem lastMilli_fits : -0x8000000000000000 ≤ lastMilli ∧ lastMilli < 0x10000000000000000 := by
  decide

theorem lastMilli_judged_alike :
    ((-0x8000000000000000 ≤ lastMilli ∧ lastMilli < 0x10000000000000000) ∧
        date (.number (.whole lastMilli lastMilli_fits)) .unbounded false = .ok () ∧
        timestamp (.number (.whole lastMilli lastMilli_fits)) .unbounded true = .ok ()) ∧
      (-0x8000000000000000 ≤ gapNumber ∧ gapNumber < 0x10000000000000000) ∧
        date (.number (.whole gapNumber gapNumber_fits)) .unbounded false ≠ .ok () ∧
        timestamp (.number (.whole gapNumber gapNumber_fits)) .unbounded true ≠ .ok () := by
  obtain ⟨alike, meant, _⟩ := millis_judged_alike lastMilli lastMilli_fits .unbounded true
  obtain ⟨gapAlike, gapMeant, _⟩ := millis_judged_alike gapNumber gapNumber_fits .unbounded true
  have reached : ofMillis? lastMilli = some ⟨maxSecond, 999000000⟩ := by decide +kernel
  have none : ofMillis? gapNumber = none := by decide +kernel
  have accepted := meant.mpr ⟨_, reached, rfl⟩
  have refused : date (.number (.whole gapNumber gapNumber_fits)) .unbounded false ≠ .ok () := by
    rw [ne_eq, gapMeant, none]
    rintro ⟨_, ⟨⟩, _⟩
  exact ⟨⟨lastMilli_fits, accepted, alike.mp accepted⟩, gapNumber_fits, refused,
    fun passed => refused (gapAlike.mpr passed)⟩

end Check

end EntitySchema

import EntitySchema.Time.Reader

set_option autoImplicit false

namespace EntitySchema

namespace Calendar

theorem daysInMonth_le (year : Int) (month : Nat) : daysInMonth year month ≤ 31 := by
  unfold daysInMonth
  split
  case h_1 => split <;> decide
  all_goals decide

def yearStart (y : Int) : Int := y * 365 + y / 4 - y / 100 + y / 400 - 719468

theorem dayNumber_eq (year : Int) (month day : Nat) :
    dayNumber year month day =
      yearStart (if month ≤ 2 then year - 1 else year) +
        ((153 * (if month ≤ 2 then month + 9 else month - 3) + 2) / 5 + day - 1 : Nat) := by
  simp only [dayNumber, yearStart, Int.fdiv_eq_ediv_of_nonneg _ (by decide : (0 : Int) ≤ 400)]
  generalize (if month ≤ 2 then year - 1 else year) = y
  omega

theorem dayNumber_newYear (year : Int) : dayNumber year 1 1 = yearStart (year - 1) + 306 :=
  dayNumber_eq year 1 1

theorem dayNumber_yearEnd (year : Int) : dayNumber year 12 31 = yearStart year + 305 :=
  dayNumber_eq year 12 31

theorem dayNumber_within (year : Int) (month day : Nat) (valid : isDay year month day = true)
    (low high : Int) (first : low ≤ year) (last : year ≤ high) :
    dayNumber low 1 1 ≤ dayNumber year month day ∧
      dayNumber year month day ≤ dayNumber high 12 31 := by
  have short := daysInMonth_le year month
  simp only [isDay, Bool.and_eq_true, decide_eq_true_eq] at valid
  rw [dayNumber_newYear, dayNumber_yearEnd, dayNumber_eq]
  by_cases early : month ≤ 2
  · simp only [early, if_true, yearStart]
    omega
  · simp only [early, if_false, yearStart]
    omega

end Calendar

namespace Instant

variable {t : Instant}

theorem ofDay_inRange (year : Int) (month day : Nat) (read : ofDay? year month day = some t) :
    t.inRange = true := by
  rw [ofDay?, Option.ite_none_right_eq_some] at read
  obtain ⟨⟨valid, first, last⟩, ⟨⟩⟩ := read
  have within := Calendar.dayNumber_within year month day valid minYear maxYear first last
  rw [inRange, Bool.and_eq_true, decide_eq_true_iff, decide_eq_true_iff, minSecond, maxSecond]
  dsimp only
  omega

theorem compose_inRange (year : Int) (month day hour minute second nano : Nat) (offset : Int)
    (read : compose? year month day hour minute second nano offset = some t) : t.inRange = true := by
  obtain ⟨midnight, -, read⟩ := Option.bind_eq_some_iff.mp read
  rw [Option.ite_none_right_eq_some] at read
  obtain ⟨⟨-, -, within⟩, ⟨⟩⟩ := read
  exact within

theorem inRange_of_bind {α : Type} (o : Option α) (f : α → Option Instant)
    (ends : ∀ a, f a = some t → t.inRange = true) (read : o.bind f = some t) : t.inRange = true := by
  obtain ⟨a, -, read⟩ := Option.bind_eq_some_iff.mp read
  exact ends a read

theorem inRange_of_ite (p : Prop) [Decidable p] (o : Option Instant)
    (ends : o = some t → t.inRange = true) (read : (if p then o else none) = some t) :
    t.inRange = true :=
  ends (Option.ite_none_right_eq_some.mp read).2

theorem ofPlainDate_inRange (s : String) : ofPlainDate? s = some t → t.inRange = true := by
  unfold ofPlainDate?
  iterate 5
    refine inRange_of_bind _ _ fun _ => ?_
  exact inRange_of_ite _ _ (ofDay_inRange _ _ _)

theorem ofRfc3339_inRange (s : String) : ofRfc3339? s = some t → t.inRange = true := by
  unfold ofRfc3339?
  iterate 5
    refine inRange_of_bind _ _ fun _ => ?_
  dsimp only
  -- The mark between day and time has three spellings.
  split
  all_goals
    iterate 8
      refine inRange_of_bind _ _ fun _ => ?_
    exact inRange_of_ite _ _ (compose_inRange _ _ _ _ _ _ _ _)

theorem parse_inRange (s : String) (read : parse? s = some t) : t.inRange = true := by
  rw [parse?, Option.orElse_eq_or, Option.or_eq_some_iff] at read
  rcases read with stamp | ⟨-, date⟩
  · exact ofRfc3339_inRange s stamp
  · exact ofPlainDate_inRange s date

end Instant

end EntitySchema

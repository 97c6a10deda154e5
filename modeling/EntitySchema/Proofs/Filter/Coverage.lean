import EntitySchema.Proofs.Entity.Assembly
import EntitySchema.Proofs.Field.Millis
import EntitySchema.Proofs.Filter.Predicate
import EntitySchema.Proofs.Time.Numeral

set_option autoImplicit false

namespace EntitySchema

open Interpretation

namespace Interpretation

def conversion? : FilterCategory → Option Conversion
  | .number => some numberValue
  | .date => some dateValue
  | .boolean => some boolValue
  | _ => none

def equated (field : String) (bound : Nat) (value : Json) : Emitted :=
  ⟨[.name field, .text " = ", .place (bound + 1)], [value]⟩

theorem ofCategory_default (category : FilterCategory) (convert : Conversion) (value : Json)
    (scalar : conversion? category = some convert) :
    ofCategory category (.default category value) value =
      (convert value).map fun converted => .column (.compare .plain .eq converted) := by
  cases category <;> cases scalar
  all_goals
    simp only [ofCategory, ordered, boolean, MatchMode.default, MatchMode.comparator, comparison?]
  · cases numberValue value <;> rfl
  · cases dateValue value <;> rfl
  · cases boolValue value <;> rfl

theorem compile_unnamed (e : Entity) (modes : MatchModes) (field : String) (p : Property)
    (category : FilterCategory) (convert : Conversion) (filter : Filter) (bound : Nat)
    (found : e.property? field = some p) (readable : p.appliesTo .select = true)
    (plain : isAggregate field = false) (categorized : p.type.category = some category)
    (scalar : conversion? category = some convert) (unnamed : filter.matchMode = none)
    (given : filter.value ≠ .null) :
    filter.compile e modes field bound = (convert filter.value).map (equated field bound) := by
  have key := (property_found e field p found).2
  have valued : ofValue category (.default category filter.value) filter.value =
      ofCategory category (.default category filter.value) filter.value := by
    cases value : filter.value with
    | null => exact absurd value given
    | _ => rfl
  rw [Filter.compile, condition_readable e modes field p filter found readable,
    onProperty_plain modes p filter (key ▸ plain), categorized, requestedMode, unnamed]
  change (ofValue category (.default category filter.value) filter.value).map _ = _
  rw [valued, ofCategory_default category convert filter.value scalar]
  cases convert filter.value <;> rfl

theorem numberValue_of_reading (value : Json) (x : Binary64) (reading : value.reading? = some x) :
    ∃ n, numberValue value = .ok (.number n) := by
  cases value with
  | number n => exact ⟨n, rfl⟩
  | string s =>
      have numeral : readNumber? (Blank.trim s) = some x := reading
      simp only [numberValue, numeral]
      split
      · exact ⟨_, rfl⟩
      · exact ⟨_, rfl⟩
  | _ => cases reading

theorem dateValue_of_date (value : Json) (t : Instant) (read : value.date? = some t) :
    dateValue value = .ok value := by
  cases value with
  | string s =>
      have read : Instant.parse? s = some t := read
      simp [dateValue, read]
  | number n =>
      obtain ⟨millis, word, _⟩ := Option.bind_eq_some_iff.mp read
      simp [dateValue, word]
  | _ => cases read

theorem dateValue_of_timestamp (value : Json) (t : Instant) (read : value.timestamp? = some t) :
    dateValue value = if isInteger value then .ok value else .error (.badValue .date) := by
  obtain ⟨x, reading, millis⟩ := Option.bind_eq_some_iff.mp read
  cases value with
  | string s =>
      have undated := date_apart s x reading
      simp [dateValue, isInteger, undated]
  | number n =>
      cases n with
      | real x => rfl
      | whole n fits =>
          cases reading
          rw [JsonNumber.toBinary64, Check.ofInt_isWhole n fits, Check.truncate_ofInt n fits, if_pos rfl,
            ofMillis_rounded] at millis
          have inside := (Instant.ofMillis_isSome_iff n).mp (Option.isSome_of_eq_some millis)
          have few := Instant.milli_small
          have word : n < 0x8000000000000000 := by omega
          simp [dateValue, isInteger, JsonNumber.toInt64?, word]
  | _ => cases reading

theorem boolValue_of_boolean (value : Json) (bounds : Bounds) (strict : Bool)
    (accepted : Check.boolean value bounds strict = .ok ()) : boolValue value = .ok value := by
  cases value with
  | bool b => rfl
  | _ => cases accepted

end Interpretation

namespace Check

theorem number_reads (entry : String × Check) (member : entry ∈ bounded ++ unbounded) :
    ReadsNumbers entry.2 := by
  rcases List.mem_append.mp member with held | free
  · intro value bounds strict accepted
    obtain ⟨_, x, reading, _⟩ := (bounded_keep entry held value bounds strict).mp accepted
    exact ⟨x, reading⟩
  · exact (unbounded_pass entry free).2

def dates : List (String × Check) := [("date", date), ("timestamp", timestamp)]

end Check

theorem builtin_date (policy : PasswordPolicy) (name : String) (type : FieldType)
    (known : (TypeRegistry.builtin policy).get? name = some type)
    (dated : type.category = some .date) : (name, type.check) ∈ Check.dates :=
  listed_check _ name type .date known dated

theorem builtin_boolean (policy : PasswordPolicy) (name : String) (type : FieldType)
    (known : (TypeRegistry.builtin policy).get? name = some type)
    (logical : type.category = some .boolean) : (name, type.check) ∈ [("boolean", Check.boolean)] :=
  listed_check _ name type .boolean known logical

section

variable (policy : PasswordPolicy) (name : String) (type : FieldType) (value : Json)
  (known : (TypeRegistry.builtin policy).get? name = some type)
  (accepted : type.check value .unbounded false = .ok ())

include known accepted

theorem number_converted (numeric : type.category = some .number) :
    name ≠ "timestamp" ∧ ∃ n, numberValue value = .ok (.number n) := by
  have member := builtin_number policy name type known numeric
  have apart : ∀ entry ∈ Check.bounded ++ Check.unbounded, entry.1 ≠ "timestamp" := by decide
  obtain ⟨x, reading⟩ := Check.number_reads _ member value .unbounded false accepted
  exact ⟨apart _ member, numberValue_of_reading value x reading⟩

theorem boolean_converted (logical : type.category = some .boolean) :
    name ≠ "timestamp" ∧ boolValue value = .ok value := by
  have member := builtin_boolean policy name type known logical
  obtain ⟨rfl, same⟩ := Prod.mk.inj (List.mem_singleton.mp member)
  rw [same] at accepted
  exact ⟨by decide, boolValue_of_boolean value _ _ accepted⟩

theorem date_converted (dated : type.category = some .date) :
    dateValue value =
      if name = "timestamp" ∧ isInteger value = false then .error (.badValue .date) else .ok value := by
  have member := builtin_date policy name type known dated
  simp only [Check.dates, List.mem_cons, List.not_mem_nil, or_false] at member
  rcases member with same | same <;> obtain ⟨rfl, checked⟩ := Prod.mk.inj same <;>
    rw [checked] at accepted
  · obtain ⟨_, t, read, _⟩ := (Check.dated_iff .date value .unbounded false).mp accepted
    simp [dateValue_of_date value t read]
  · obtain ⟨_, t, read, _⟩ := (Check.dated_iff .timestamp value .unbounded false).mp accepted
    cases whole : isInteger value <;> simp [dateValue_of_timestamp value t read, whole]

theorem accepted_given (category : FilterCategory) (convert : Conversion)
    (scalar : conversion? category = some convert) (categorized : type.category = some category) :
    value ≠ .null := by
  rintro rfl
  cases category <;> cases scalar
  case number =>
    obtain ⟨_, n, converted⟩ := number_converted policy name type .null known accepted categorized
    cases converted
  case date =>
    have member := builtin_date policy name type known categorized
    simp only [Check.dates, List.mem_cons, List.not_mem_nil, or_false] at member
    rcases member with same | same <;> rw [(Prod.mk.inj same).2] at accepted <;> cases accepted
  case boolean =>
    cases (boolean_converted policy name type .null known accepted categorized).2

theorem accepted_converted (category : FilterCategory) (convert : Conversion)
    (scalar : conversion? category = some convert) (categorized : type.category = some category) :
    (name = "timestamp" ∧ isInteger value = false ∧ convert value = .error (.badValue .date)) ∨
      ((name = "timestamp" → isInteger value = true) ∧ ∃ converted,
        convert value = .ok converted ∧ (converted = value ∨ converted.isNumber = true)) := by
  cases category <;> cases scalar
  case number =>
    obtain ⟨other, n, converted⟩ := number_converted policy name type value known accepted categorized
    exact .inr ⟨fun named => absurd named other, _, converted, .inr rfl⟩
  case boolean =>
    obtain ⟨other, same⟩ := boolean_converted policy name type value known accepted categorized
    exact .inr ⟨fun named => absurd named other, _, same, .inl rfl⟩
  case date =>
    have outcome := date_converted policy name type value known accepted categorized
    split at outcome
    case isTrue missed => exact .inl ⟨missed.1, missed.2, outcome⟩
    case isFalse covered =>
      refine .inr ⟨fun named => ?_, _, outcome, .inl rfl⟩
      simpa [named] using covered

end

-- Every value that a type takes is compared for equality, as it is or as the number that it reads as,
-- other than timestamps that are texts or doubles: these are taken for no dates.
theorem accepted_filtered_iff (policy : PasswordPolicy) (e : Entity) (modes : MatchModes)
    (field : String) (p : Property) (category : FilterCategory) (filter : Filter) (bound : Nat)
    (found : e.property? field = some p) (readable : p.appliesTo .select = true)
    (plain : isAggregate field = false)
    (known : (TypeRegistry.builtin policy).get? p.typeName = some p.type)
    (categorized : p.type.category = some category)
    (scalar : category ∈ [.number, .boolean, .date]) (unnamed : filter.matchMode = none)
    (accepted : p.type.check filter.value .unbounded false = .ok ()) :
    ((∃ emitted, filter.compile e modes field bound = .ok emitted) ↔
        (p.typeName = "timestamp" → isInteger filter.value = true)) ∧
      (∀ emitted, filter.compile e modes field bound = .ok emitted →
        ∃ value, emitted = equated field bound value ∧
          (value = filter.value ∨ value.isNumber = true)) ∧
      ∀ anomaly, filter.compile e modes field bound = .error anomaly →
        anomaly = .badValue .date := by
  obtain ⟨convert, convertible⟩ : ∃ convert, conversion? category = some convert := by
    simp only [List.mem_cons, List.not_mem_nil, or_false] at scalar
    rcases scalar with rfl | rfl | rfl <;> exact ⟨_, rfl⟩
  have given := accepted_given policy p.typeName p.type filter.value known accepted category convert
    convertible categorized
  rw [compile_unnamed e modes field p category convert filter bound found readable plain categorized
    convertible unnamed given]
  rcases accepted_converted policy p.typeName p.type filter.value known accepted category convert
    convertible categorized with ⟨named, missed, refused⟩ | ⟨covered, value, converted, kept⟩
  · rw [refused]
    refine ⟨⟨?_, fun whole => ?_⟩, ?_, ?_⟩
    · rintro ⟨_, ⟨⟩⟩
    · rw [whole named] at missed
      cases missed
    · rintro _ ⟨⟩
    · rintro _ ⟨⟩
      rfl
  · rw [converted]
    refine ⟨⟨fun _ => covered, fun _ => ⟨_, rfl⟩⟩, ?_, ?_⟩
    · rintro _ ⟨⟩
      exact ⟨value, rfl, kept⟩
    · rintro _ ⟨⟩

def visits : Entity :=
  (Entity.build "Visit" "visits" [(Declaration.of "at" "timestamp").plain]
    (.builtin .standard)).toOption.getD ⟨"", "", [], .standard, .standard⟩

structure Property.IsMoment (p : Property) : Prop where
  readable : p.appliesTo .select = true
  named : p.typeName = "timestamp"
  known : (TypeRegistry.builtin .standard).get? p.typeName = some p.type
  dated : p.type.category = some .date

theorem visits_moment : ∃ p, visits.property? "at" = some p ∧ p.IsMoment := by
  have built : Entity.build "Visit" "visits" _ _ = .ok visits := ok_getD _ _ (by decide +kernel)
  have declared : (visits.property? "at").any (fun p => p.appliesTo .select &&
      p.typeName == "timestamp" && p.type.category = some .date) = true := by
    decide +kernel
  obtain ⟨p, found, moment⟩ := (Option.any_eq_true _ _).mp declared
  simp only [Bool.and_eq_true, beq_iff_eq, decide_eq_true_eq] at moment
  have known := Assembly.built_type _ _ _ _ visits built p (property_found visits "at" p found).1
  exact ⟨p, found, moment.1.1, moment.1.2, known, moment.2⟩

theorem moment_check (p : Property) (moment : p.IsMoment) : p.type.check = Check.timestamp := by
  have known := moment.known
  rw [moment.named] at known
  exact congrArg FieldType.check (Option.some.inj known).symm

def Filter.plain (value : Json) : Filter := ⟨value, none, none, none⟩

theorem moment_filtered :
    ∃ p value, visits.property? "at" = some p ∧ p.IsMoment ∧ isAggregate "at" = false ∧
      p.type.check (.ofNat 1700000000000) .unbounded false = .ok () ∧
      (Filter.plain (.ofNat 1700000000000)).compile visits .standard "at" 0 =
        .ok (equated "at" 0 value) := by
  obtain ⟨p, found, moment⟩ := visits_moment
  have accepted : p.type.check (.ofNat 1700000000000) .unbounded false = .ok () := by
    rw [moment_check p moment]
    exact ok_of_toOption _ _ (by decide +kernel)
  obtain ⟨compiles, same, _⟩ := accepted_filtered_iff .standard visits .standard "at" p .date
    (Filter.plain (.ofNat 1700000000000)) 0 found moment.readable (by decide) moment.known moment.dated
    (by decide) rfl accepted
  obtain ⟨emitted, compiled⟩ := compiles.mpr fun _ => rfl
  obtain ⟨value, rfl, _⟩ := same emitted compiled
  exact ⟨p, value, found, moment, by decide, accepted, compiled⟩

def otherMoments : List Json := [.number (.real (.ofInt 1700000000000)), .string "1700000000000"]

theorem otherMoments_refused :
    ∃ p, visits.property? "at" = some p ∧ p.IsMoment ∧ isAggregate "at" = false ∧
      ∀ value ∈ otherMoments, p.type.check value .unbounded false = .ok () ∧
        (Filter.plain value).compile visits .standard "at" 0 = .error (.badValue .date) := by
  obtain ⟨p, found, moment⟩ := visits_moment
  refine ⟨p, found, moment, by decide, fun value member => ?_⟩
  have refused : value ≠ .null ∧ dateValue value = .error (.badValue .date) := by
    have undated : Instant.parse? "1700000000000" = none := by decide +kernel
    simp only [otherMoments, List.mem_cons, List.not_mem_nil, or_false] at member
    rcases member with rfl | rfl
    · exact ⟨by simp, rfl⟩
    · exact ⟨by simp, by simp [dateValue, undated]⟩
  rw [moment_check p moment, compile_unnamed visits .standard "at" p .date dateValue (Filter.plain value)
    0 found moment.readable (by decide) moment.dated rfl rfl refused.1]
  refine ⟨?_, by rw [Filter.plain, refused.2]; rfl⟩
  have each : ∀ value ∈ otherMoments, (Check.timestamp value .unbounded false).toOption = some () := by
    decide +kernel
  exact ok_of_toOption _ _ (each value member)

end EntitySchema

import EntitySchema.Proofs.Entity.Resolution
import EntitySchema.Proofs.Field.Length
import EntitySchema.Proofs.Field.Whole
import EntitySchema.Proofs.Json.Members

/-!
# Numbers under bounds

Nine types of fields take numbers. Three of them hold the number that a value is read as to the bounds
of the field. The other six leave the bounds of a field out of account, so that a value passes or is
refused as it would be without any.
-/

set_option autoImplicit false

namespace EntitySchema

def Json.reading? : Json → Option Binary64
  | .number n => some n.toBinary64
  | .string s => readNumber? (Blank.trim s)
  | _ => none

namespace Check

theorem numeric_iff (expected : String) (value : Json) (strict : Bool) (x : Binary64) :
    numeric expected value strict = .ok x ↔
      value.reading? = some x ∧ (strict = true → value.isNumber = true) := by
  cases value with
  | number n => simp [numeric, Json.reading?, Json.isNumber]
  | string s =>
      cases strict with
      | true => simp [numeric, Json.isNumber]
      | false => cases read : readNumber? (Blank.trim s) <;> simp [numeric, Json.reading?, read]
  | _ => simp [numeric, Json.reading?]

theorem whole_iff (expected : String) (value : Json) (strict : Bool) (x : Binary64) :
    whole expected value strict = .ok x ↔ numeric expected value strict = .ok x ∧ x.isWhole = true := by
  rw [whole, bind_ok_iff]
  constructor
  · rintro ⟨y, read, accepted⟩
    split at accepted
    case isTrue integral =>
      cases accepted
      exact ⟨read, integral⟩
    case isFalse => cases accepted
  · rintro ⟨read, integral⟩
    exact ⟨x, read, by rw [if_pos integral]; rfl⟩

def KeepsBounds (check : Check) : Prop :=
  ∀ value bounds strict, check value bounds strict = .ok () ↔
    check value .unbounded strict = .ok () ∧
      ∃ x, value.reading? = some x ∧ bounds.contains x = true

def PassesBounds (check : Check) : Prop :=
  ∀ value bounds strict, check value bounds strict = check value .unbounded strict

def ReadsNumbers (check : Check) : Prop :=
  ∀ value bounds strict, check value bounds strict = .ok () → ∃ x, value.reading? = some x

section

variable (read : Json → Bool → Except Violation Binary64)
  (reads : ∀ value strict x, read value strict = .ok x → value.reading? = some x)

include reads

theorem keepsBounds_of_read (expected : String) :
    KeepsBounds fun value bounds strict => (do within expected (← read value strict) bounds) := by
  intro value bounds strict
  have open' : ∀ x, Bounds.contains .unbounded x = true := fun _ => rfl
  simp only [bind_ok_iff, within_iff, open', and_true]
  constructor
  · rintro ⟨x, given, contained⟩
    exact ⟨⟨x, given⟩, x, reads value strict x given, contained⟩
  · rintro ⟨⟨x, given⟩, y, reading, contained⟩
    obtain rfl : x = y := Option.some.inj ((reads value strict x given).symm.trans reading)
    exact ⟨x, given, contained⟩

theorem readsNumbers_of_read (judge : Json → Bool → Binary64 → Except Violation Unit) :
    ReadsNumbers fun value _ strict => (do judge value strict (← read value strict)) := by
  intro value bounds strict accepted
  obtain ⟨x, given, _⟩ := (bind_ok_iff _ _ _).mp accepted
  exact ⟨x, reads value strict x given⟩

end

theorem reading_of_numeric (expected : String) (value : Json) (strict : Bool) (x : Binary64)
    (given : numeric expected value strict = .ok x) : value.reading? = some x :=
  ((numeric_iff expected value strict x).mp given).1

theorem reading_of_whole (expected : String) (value : Json) (strict : Bool) (x : Binary64)
    (given : whole expected value strict = .ok x) : value.reading? = some x :=
  reading_of_numeric expected value strict x ((whole_iff expected value strict x).mp given).1

def fractional (value : Json) (strict : Bool) : Except Violation Binary64 := do
  let x ← numeric "float" value strict
  if x.isWhole then .error (.wrongType "float" value) else return x

theorem reading_of_fractional (value : Json) (strict : Bool) (x : Binary64)
    (given : fractional value strict = .ok x) : value.reading? = some x := by
  obtain ⟨y, numeral, accepted⟩ := (bind_ok_iff _ _ _).mp given
  split at accepted
  · cases accepted
  · cases accepted
    exact reading_of_numeric "float" value strict x numeral

theorem float_eq :
    float = fun value bounds strict => (do within "float" (← fractional value strict) bounds) := by
  funext value bounds strict
  simp only [float, fractional]
  cases numeric "float" value strict with
  | error fault => rfl
  | ok x =>
      simp only [bind, Except.bind]
      split <;> rfl

def bounded : List (String × Check) := [("number", number), ("integer", integer), ("float", float)]

def unbounded : List (String × Check) :=
  [("even", even), ("odd", odd), ("positive", positive), ("negative", negative),
   ("powerOfTwo", powerOfTwo), ("ascii", ascii)]

theorem bounded_keep (entry : String × Check) (member : entry ∈ bounded) : KeepsBounds entry.2 := by
  simp only [bounded, List.mem_cons, List.not_mem_nil, or_false] at member
  rcases member with rfl | rfl | rfl
  · exact keepsBounds_of_read _ (reading_of_numeric "number") "number"
  · exact keepsBounds_of_read _ (reading_of_whole "integer") "integer"
  · exact float_eq ▸ keepsBounds_of_read _ reading_of_fractional "float"

theorem unbounded_pass (entry : String × Check) (member : entry ∈ unbounded) :
    PassesBounds entry.2 ∧ ReadsNumbers entry.2 := by
  simp only [unbounded, List.mem_cons, List.not_mem_nil, or_false] at member
  rcases member with rfl | rfl | rfl | rfl | rfl | rfl <;> refine ⟨fun _ _ _ => rfl, ?_⟩
  · exact readsNumbers_of_read _ (reading_of_whole "even integer") _
  · exact readsNumbers_of_read _ (reading_of_whole "odd integer") _
  · exact readsNumbers_of_read _ (reading_of_numeric "positive number") _
  · exact readsNumbers_of_read _ (reading_of_numeric "negative number") _
  · exact readsNumbers_of_read _ (reading_of_whole "power of two") _
  · exact readsNumbers_of_read _ (fun value _ => reading_of_whole "ascii code" value false) _

end Check

theorem listed_check (entries : List (String × FieldType)) (name : String) (type : FieldType)
    (category : FilterCategory)
    (known : (Members.ofList entries).lookup name = some type)
    (categorized : type.category = some category) :
    (name, type.check) ∈ (entries.filter fun entry => entry.2.category = some category).map
      fun entry => (entry.1, entry.2.check) := by
  obtain ⟨before, after, whole, _⟩ := List.lookup_eq_some_iff.mp known
  have listed : (name, type) ∈ Members.ofList entries := by simp [whole]
  have chosen := (List.mem_filter (p := fun entry => entry.2.category = some category)).mpr
    ⟨Members.mem_ofList _ _ listed, by simpa using categorized⟩
  exact List.mem_map_of_mem (f := fun entry => (entry.1, entry.2.check)) chosen

theorem builtin_number (policy : PasswordPolicy) (name : String) (type : FieldType)
    (known : (TypeRegistry.builtin policy).get? name = some type)
    (numeric : type.category = some .number) :
    (name, type.check) ∈ Check.bounded ++ Check.unbounded :=
  listed_check _ name type .number known numeric

-- The first three types enforce the bounds that a field declares, exactly; the others none of them.
theorem numbers_bounded (policy : PasswordPolicy) (d : Descriptor) (p : Property)
    (resolved : Property.resolve (.builtin policy) d = .ok p)
    (numeric : p.type.category = some .number) (plain : p.validator = none) (value : Json) :
    (p.check value = .ok () → ∃ x, value.reading? = some x) ∧
      (p.check value = .ok () ↔
        p.type.check value .unbounded p.strict = .ok () ∧
          (p.typeName ∈ ["number", "integer", "float"] →
            ∃ x, value.reading? = some x ∧ p.bounds.contains x = true)) := by
  have known := (resolve_declared (.builtin policy) d p resolved).type
  rw [p.check_plain plain]
  rcases List.mem_append.mp (builtin_number policy p.typeName p.type known numeric) with held | free
  · have keeps := Check.bounded_keep _ held value p.bounds p.strict
    have named : p.typeName ∈ ["number", "integer", "float"] :=
      List.mem_map_of_mem (f := Prod.fst) held
    refine ⟨fun accepted => ?_, ?_⟩
    · obtain ⟨x, reading, _⟩ := (keeps.mp accepted).2
      exact ⟨x, reading⟩
    · rw [keeps]
      exact and_congr_right fun _ => ⟨fun contained _ => contained, fun contained => contained named⟩
  · obtain ⟨passes, reads⟩ := Check.unbounded_pass _ free
    have apart : ∀ name ∈ Check.unbounded.map Prod.fst, name ∉ ["number", "integer", "float"] := by
      decide
    have other := apart p.typeName (List.mem_map_of_mem (f := Prod.fst) free)
    have same : p.type.check value p.bounds p.strict = p.type.check value .unbounded p.strict :=
      passes value p.bounds p.strict
    refine ⟨reads value p.bounds p.strict, ?_⟩
    rw [same]
    exact ⟨fun accepted => ⟨accepted, fun named => absurd named other⟩, fun accepted => accepted.1⟩

def scoreField : Descriptor :=
  Declaration.plain { Declaration.of "score" "integer" with
    min := some (.number (.ofInt 1)), max := some (.number (.ofInt 10)) }

theorem score_bounded :
    ∃ p, Property.resolve (.builtin .standard) scoreField = .ok p ∧
      p.type.category = some .number ∧ p.validator = none ∧ p.check (.string " 7 ") = .ok () ∧
      ∃ x, Json.reading? (.string " 7 ") = some x ∧ p.bounds.contains x = true := by
  obtain ⟨p, resolved, found⟩ := ok_of_any (Property.resolve (.builtin .standard) scoreField)
    (fun p => p.type.category = some .number && p.validator.isNone && p.typeName = "integer" &&
      (p.check (.string " 7 ")).toOption = some ()) (by decide +kernel)
  simp only [Bool.and_eq_true, decide_eq_true_eq, Option.isNone_iff_eq_none] at found
  obtain ⟨⟨⟨numeric, plain⟩, named⟩, passed⟩ := found
  have accepted := ok_of_toOption _ _ passed
  obtain ⟨_, judged⟩ := numbers_bounded .standard scoreField p resolved numeric plain (.string " 7 ")
  exact ⟨p, resolved, numeric, plain, accepted, (judged.mp accepted).2 (by rw [named]; decide)⟩

def seatsField : Descriptor :=
  Declaration.plain { Declaration.of "seats" "even" with max := some (.number (.ofInt 10)) }

theorem seats_beyond_maximum :
    ∃ p x, Property.resolve (.builtin .standard) seatsField = .ok p ∧
      p.type.category = some .number ∧ p.validator = none ∧ p.check (.ofNat 12) = .ok () ∧
      Json.reading? (.ofNat 12) = some x ∧ p.bounds.contains x = false := by
  obtain ⟨p, resolved, found⟩ := ok_of_any (Property.resolve (.builtin .standard) seatsField)
    (fun p => p.type.category = some .number && p.validator.isNone &&
      (p.check (.ofNat 12)).toOption = some () && !p.bounds.contains (.ofInt 12)) (by decide +kernel)
  simp only [Bool.and_eq_true, decide_eq_true_eq, Option.isNone_iff_eq_none, Bool.not_eq_true'] at found
  obtain ⟨⟨⟨numeric, plain⟩, passed⟩, beyond⟩ := found
  exact ⟨p, .ofInt 12, resolved, numeric, plain, ok_of_toOption _ _ passed, rfl, beyond⟩

end EntitySchema

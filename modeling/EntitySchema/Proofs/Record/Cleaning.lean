import EntitySchema.Record.Validation

set_option autoImplicit false

namespace EntitySchema

def Property.cleanedValue (limits : SanitizeLimits) (p : Property) (record : Record) : Option Json :=
  (record.lookup p.key).map (p.clean limits)

namespace Property

inductive Sanitized (limits : SanitizeLimits) (p : Property) (value : Json) : Json → Prop where
  | kept (off : p.sanitizes = false) : Sanitized limits p value value
  | hooked (f : Json → Json) (asked : p.sanitizes = true) (hook : p.sanitizer = some f) :
      Sanitized limits p value (f value)
  | trimmed (asked : p.sanitizes = true) (builtin : p.sanitizer = none) :
      Sanitized limits p value (deepTrim limits value)

inductive Normalized (p : Property) (value : Json) : Json → Prop where
  | kept (off : p.normalizes = false) : Normalized p value value
  | named (normalizer : Normalizer) (asked : p.normalizes = true)
      (known : p.normalization = .named normalizer) : Normalized p value (normalizer.apply value)
  | hooked (f : Json → Json) (asked : p.normalizes = true) (hook : p.normalization = .custom f) :
      Normalized p value (f value)

theorem sanitize_sanitized (limits : SanitizeLimits) (p : Property) (value : Json) :
    p.Sanitized limits value (p.sanitize limits value) := by
  by_cases asked : p.sanitizes = true
  · rw [sanitize, if_pos asked]
    cases hook : p.sanitizer with
    | none => exact .trimmed asked hook
    | some f => exact .hooked f asked hook
  · rw [sanitize, if_neg asked]
    exact .kept (by simpa using asked)

theorem normalize_normalized (p : Property) (value : Json) :
    p.Normalized value (p.normalize value) := by
  by_cases asked : p.normalizes = true
  · rw [normalize, if_pos asked]
    cases known : p.normalization with
    | absent => simp [normalizes, known, Normalization.isPresent] at asked
    | named normalizer => exact .named normalizer asked known
    | custom f => exact .hooked f asked known
  · rw [normalize, if_neg asked]
    exact .kept (by simpa using asked)

theorem clean_null (limits : SanitizeLimits) (p : Property) : p.clean limits .null = .null := rfl

theorem clean_present (limits : SanitizeLimits) (p : Property) (value : Json)
    (present : value ≠ .null) : p.clean limits value = p.normalize (p.sanitize limits value) := by
  cases value with
  | null => exact absurd rfl present
  | _ => rfl

end Property

namespace Record

def cleanField (limits : SanitizeLimits) (properties : List Property) (key : String) (value : Json) :
    Json :=
  match properties.find? (·.key == key) with
  | some p => p.clean limits value
  | none => value

def cleaned (limits : SanitizeLimits) (properties : List Property) (record : Record) : Record :=
  record.map fun (key, value) => (key, cleanField limits properties key value)

theorem lookup_map (f : String → Json → Json) (record : Record) (key : String) :
    (record.map fun (name, value) => (name, f name value)).lookup key =
      (record.lookup key).map (f key) := by
  induction record with
  | nil => rfl
  | cons field rest ih =>
      obtain ⟨name, value⟩ := field
      by_cases found : key = name
      · subst found
        simp
      · have passed : (key == name) = false := by simpa using found
        simp only [List.map_cons, List.lookup_cons, passed]
        exact ih

theorem adjust_eq_map (key : String) (f : Json → Json) (record : Record) :
    record.adjust key f =
      record.map fun (name, value) => (name, if name = key then f value else value) := by
  apply List.map_congr_left
  intro field member
  by_cases same : field.1 = key <;> simp [same]

theorem lookup_adjust (key other : String) (f : Json → Json) (record : Record) :
    (record.adjust key f).lookup other =
      (record.lookup other).map fun value => if other = key then f value else value := by
  rw [adjust_eq_map]
  exact lookup_map (fun name value => if name = key then f value else value) record other

theorem lookup_cleaned (limits : SanitizeLimits) (properties : List Property) (record : Record)
    (key : String) :
    (cleaned limits properties record).lookup key =
      (record.lookup key).map (cleanField limits properties key) :=
  lookup_map (cleanField limits properties) record key

theorem cleanField_other (limits : SanitizeLimits) (properties : List Property) (key : String)
    (value : Json) (foreign : key ∉ properties.map (·.key)) :
    cleanField limits properties key value = value := by
  have unfound : properties.find? (·.key == key) = none := by
    apply List.find?_eq_none.mpr
    intro p member same
    exact foreign (List.mem_map.mpr ⟨p, member, by simpa using same⟩)
  rw [cleanField, unfound]

theorem cleanField_member (limits : SanitizeLimits) (properties : List Property) (p : Property)
    (value : Json) (distinct : (properties.map (·.key)).Nodup) (member : p ∈ properties) :
    cleanField limits properties p.key value = p.clean limits value := by
  induction properties with
  | nil => cases member
  | cons first rest ih =>
      simp only [List.map_cons, List.nodup_cons] at distinct
      rcases List.mem_cons.mp member with same | later
      · subst same
        simp [cleanField]
      · have passed : (first.key == p.key) = false := by
          simp only [beq_eq_false_iff_ne]
          intro same
          exact distinct.1 (List.mem_map.mpr ⟨p, later, same.symm⟩)
        have tail := ih distinct.2 later
        simp only [cleanField, List.find?_cons, passed] at tail ⊢
        exact tail

theorem cleaned_nil (limits : SanitizeLimits) (record : Record) : cleaned limits [] record = record := by
  simp [cleaned, cleanField]

theorem cleaned_cons (limits : SanitizeLimits) (p : Property) (rest : List Property)
    (record : Record) (fresh : p.key ∉ rest.map (·.key)) :
    cleaned limits rest (p.cleanIn limits record) = cleaned limits (p :: rest) record := by
  simp only [cleaned, Property.cleanIn, adjust_eq_map, List.map_map]
  apply List.map_congr_left
  intro field member
  obtain ⟨key, value⟩ := field
  by_cases same : key = p.key
  · subst same
    simp only [Function.comp, if_true, cleanField_other limits rest p.key _ fresh]
    simp [cleanField]
  · have passed : (p.key == key) = false := by simpa using Ne.symm same
    simp [same, passed, cleanField]

theorem lookup_cleaned_other (limits : SanitizeLimits) (properties : List Property)
    (record : Record) (key : String) (foreign : key ∉ properties.map (·.key)) :
    (cleaned limits properties record).lookup key = record.lookup key := by
  have same : cleanField limits properties key = id := by
    funext value
    exact cleanField_other limits properties key value foreign
  rw [lookup_cleaned, same, Option.map_id_fun, id]

theorem lookup_cleaned_member (limits : SanitizeLimits) (properties : List Property)
    (p : Property) (record : Record) (distinct : (properties.map (·.key)).Nodup)
    (member : p ∈ properties) :
    (cleaned limits properties record).lookup p.key = p.cleanedValue limits record := by
  have same : cleanField limits properties p.key = p.clean limits := by
    funext value
    exact cleanField_member limits properties p value distinct member
  rw [lookup_cleaned, same, Property.cleanedValue]

end Record

theorem lookup_cleanIn (limits : SanitizeLimits) (p : Property) (record : Record) :
    (p.cleanIn limits record).lookup p.key = p.cleanedValue limits record := by
  rw [Property.cleanIn, Record.lookup_adjust, Property.cleanedValue]
  simp

theorem cleanedValue_cleanIn (limits : SanitizeLimits) (p q : Property) (record : Record)
    (different : q.key ≠ p.key) :
    q.cleanedValue limits (p.cleanIn limits record) = q.cleanedValue limits record := by
  rw [Property.cleanedValue, Property.cleanIn, Record.lookup_adjust, Property.cleanedValue]
  simp [different]

end EntitySchema

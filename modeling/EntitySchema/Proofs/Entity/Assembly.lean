import EntitySchema.Entity.Assembly
import EntitySchema.Proofs.Entity.WellFormed
import EntitySchema.Proofs.Json.Members

set_option autoImplicit false

namespace EntitySchema

namespace Gathered

theorem position_add (g : Gathered) (p : Property) (key : String) :
    (g.add p).position? key = if key = p.key then some g.properties.length else g.position? key :=
  lookup_insert p.key key g.properties.length g.index

def Indexed (g : Gathered) : Prop :=
  ∀ key, g.position? key = g.properties.findIdx? (·.key == key)

theorem empty_indexed : empty.Indexed := fun _ => rfl

theorem add_indexed (g : Gathered) (indexed : g.Indexed) (p : Property)
    (fresh : g.position? p.key = none) : (g.add p).Indexed := by
  intro key
  have before := indexed key
  have appended : (g.add p).properties = g.properties ++ [p] := rfl
  rw [position_add, appended, List.findIdx?_append]
  by_cases here : key = p.key
  · subst here
    rw [fresh] at before
    simp [← before]
  · simp [here, Ne.symm here, before]

theorem extend_indexed (types : TypeRegistry) (descriptors : List Descriptor) (g result : Gathered)
    (indexed : g.Indexed) (extended : g.extend types descriptors = .ok result) : result.Indexed := by
  induction descriptors generalizing g with
  | nil =>
      cases extended
      exact indexed
  | cons d rest ih =>
      obtain ⟨p, _, extended⟩ := (bind_ok_iff _ _ _).mp extended
      split at extended
      · cases extended
      · rename_i fresh
        exact ih (g.add p) (g.add_indexed indexed p (by simpa using fresh)) extended

theorem property_eq (g : Gathered) (indexed : g.Indexed) (key : String) :
    g.property? key = g.properties.find? (·.key == key) := by
  rw [property?, indexed, List.find?_eq_bind_findIdx?_getElem?]

-- The keys that have been seen are those with a position, so the same descriptors are refused.
theorem extend_eq (types : TypeRegistry) (descriptors : List Descriptor) (g : Gathered)
    (seen : List String) (known : ∀ key, (g.position? key).isSome = seen.contains key) :
    g.extend types descriptors = (Entity.resolveAll types seen descriptors).map (List.foldl add g) := by
  induction descriptors generalizing g seen with
  | nil => rfl
  | cons d rest ih =>
      have added : ∀ p key, ((g.add p).position? key).isSome = (p.key :: seen).contains key := by
        intro p key
        rw [position_add, List.contains_cons, ← known key]
        by_cases here : key = p.key <;> simp [here]
      rw [extend, Entity.resolveAll]
      cases Property.resolve types d with
      | error fault => rfl
      | ok p =>
          simp only [bind, Except.bind, known p.key]
          cases seen.contains p.key with
          | true => rfl
          | false =>
              simp only [Bool.false_eq_true, if_false, pure, Except.pure]
              rw [ih (g.add p) (p.key :: seen) (added p)]
              cases Entity.resolveAll types (p.key :: seen) rest <;> rfl

theorem foldl_properties (properties : List Property) (g : Gathered) :
    (properties.foldl add g).properties = g.properties ++ properties := by
  induction properties generalizing g with
  | nil => simp
  | cons p rest ih => simp [ih, add]

theorem extend_empty (types : TypeRegistry) (descriptors : List Descriptor) :
    (empty.extend types descriptors).map Gathered.properties =
      Entity.resolveAll types [] descriptors := by
  rw [extend_eq types descriptors empty [] fun _ => rfl]
  cases Entity.resolveAll types [] descriptors with
  | error fault => rfl
  | ok properties => exact congrArg Except.ok (foldl_properties properties empty)

end Gathered

theorem resolveAll_declared (types : TypeRegistry) (seen : List String) (descriptors : List Descriptor)
    (properties : List Property)
    (accepted : Entity.resolveAll types seen descriptors = .ok properties) :
    List.Forall₂ (Property.Declared types) descriptors properties := by
  induction descriptors generalizing seen properties with
  | nil =>
      cases accepted
      exact .nil
  | cons d rest ih =>
      obtain ⟨p, resolved, accepted⟩ := (bind_ok_iff _ _ _).mp accepted
      split at accepted
      · cases accepted
      · obtain ⟨others, othersAccepted, same⟩ := (bind_ok_iff _ _ _).mp accepted
        cases same
        exact .cons (resolve_declared types d p resolved) (ih _ others othersAccepted)

theorem type_of_declared (types : TypeRegistry) (descriptors : List Descriptor)
    (properties : List Property)
    (declared : List.Forall₂ (Property.Declared types) descriptors properties) :
    ∀ p ∈ properties, types.get? p.typeName = some p.type := by
  induction declared with
  | nil => simp
  | cons first _ ih => exact List.forall_mem_cons.mpr ⟨first.type, ih⟩

theorem declared_keys (types : TypeRegistry) (descriptors : List Descriptor)
    (properties : List Property) (pick : Property → Bool) (flag : Descriptor → Bool)
    (same : ∀ d p, Property.Declared types d p → pick p = flag d)
    (declared : List.Forall₂ (Property.Declared types) descriptors properties) :
    (properties.filter pick).map Property.key = (descriptors.filter flag).map (·.key) := by
  induction declared with
  | nil => rfl
  | @cons d p rest others first _ ih =>
      have picked := same d p first
      cases flagged : flag d with
      | true =>
          rw [List.filter_cons_of_pos (picked.trans flagged), List.filter_cons_of_pos flagged,
            List.map_cons, List.map_cons, ih, first.key]
      | false =>
          rw [List.filter_cons_of_neg (by simp [picked, flagged]),
            List.filter_cons_of_neg (by simp [flagged]), ih]

namespace Assembly

theorem build_accepted (name table : String) (descriptors : List Descriptor) (types : TypeRegistry)
    (a : Assembly) (built : build name table descriptors types = .ok a) :
    Gathered.empty.extend types descriptors = .ok a.toGathered ∧
      (∀ op, a.catalogs.get op.index = Catalog.of a.properties op) ∧
      a.unsafeKeys = (a.properties.filter fun p => !p.safe).map Property.key := by
  unfold build at built
  cases fault : tableFault? table with
  | some fault' =>
      rw [fault] at built
      cases built
  | none =>
      rw [fault] at built
      obtain ⟨gathered, extended, same⟩ := (bind_ok_iff _ _ _).mp built
      cases same
      exact ⟨extended, fun op => by cases op <;> rfl, rfl⟩

theorem build_entity (name table : String) (descriptors : List Descriptor) (types : TypeRegistry) :
    (build name table descriptors types).map entity = Entity.build name table descriptors types := by
  unfold build Entity.build
  cases tableFault? table with
  | some fault => rfl
  | none =>
      rw [← Gathered.extend_empty types descriptors]
      cases Gathered.empty.extend types descriptors <;> rfl

structure Coherent (a : Assembly) : Prop where
  indexed : a.toGathered.Indexed
  catalogs : ∀ op, a.catalogs.get op.index = Catalog.of a.properties op
  unsafeKeys : a.unsafeKeys = (a.properties.filter fun p => !p.safe).map Property.key

inductive Assembled (descriptors : List Descriptor) (types : TypeRegistry) : Assembly → Prop where
  | build (name table : String) (a : Assembly) (built : build name table descriptors types = .ok a) :
      Assembled descriptors types a
  | withVerbs (a : Assembly) (verbs : VerbMapping) (before : Assembled descriptors types a) :
      Assembled descriptors types (a.withVerbs verbs)
  | withLimits (a : Assembly) (limits : SanitizeLimits) (before : Assembled descriptors types a) :
      Assembled descriptors types (a.withLimits limits)

section
variable (descriptors : List Descriptor) (types : TypeRegistry) (a : Assembly)
  (assembled : Assembled descriptors types a)

include assembled

theorem assembled_coherent : a.Coherent := by
  induction assembled with
  | build name table a built =>
      obtain ⟨extended, catalogs, unsafeKeys⟩ := build_accepted name table descriptors types a built
      exact ⟨Gathered.extend_indexed types descriptors _ _ Gathered.empty_indexed extended, catalogs,
        unsafeKeys⟩
  | withVerbs a verbs _ ih => exact ⟨ih.indexed, ih.catalogs, ih.unsafeKeys⟩
  | withLimits a limits _ ih => exact ⟨ih.indexed, ih.catalogs, ih.unsafeKeys⟩

theorem assembled_built : a.entity.Built := by
  induction assembled with
  | build name table a built =>
      have whole := build_entity name table descriptors types
      rw [built] at whole
      exact .build name table descriptors types a.entity whole.symm
  | withVerbs a verbs _ ih => exact .withVerbs a.entity verbs ih
  | withLimits a limits _ ih => exact .withLimits a.entity limits ih

theorem assembled_declared :
    List.Forall₂ (Property.Declared types) descriptors a.properties := by
  induction assembled with
  | build name table a built =>
      obtain ⟨extended, _⟩ := build_accepted name table descriptors types a built
      have resolved := Gathered.extend_empty types descriptors
      rw [extended] at resolved
      exact resolveAll_declared types [] descriptors a.properties resolved.symm
  | withVerbs a verbs _ ih => exact ih
  | withLimits a limits _ ih => exact ih

end

theorem built_type (name table : String) (descriptors : List Descriptor) (types : TypeRegistry)
    (e : Entity) (built : Entity.build name table descriptors types = .ok e) :
    ∀ p ∈ e.properties, types.get? p.typeName = some p.type := by
  rw [← build_entity] at built
  obtain ⟨a, assembled, rfl⟩ := (map_ok_iff _ _ _).mp built
  exact type_of_declared types descriptors a.properties
    (assembled_declared descriptors types a (.build name table a assembled))

structure Agrees (a : Assembly) (e : Entity) : Prop where
  property : ∀ key, a.property? key = e.property? key
  columns : ∀ op, a.columns op = e.columns op
  columnsFor : ∀ op, a.propertiesFor (.ofOperation op) = e.propertiesFor op
  rendered : ∀ op, a.renderedColumns op = e.renderedColumns op
  unsafeKeys : a.unsafeKeys = e.unsafeKeys

theorem coherent_agrees (a : Assembly) (coherent : a.Coherent) : a.Agrees a.entity := by
  refine ⟨a.property_eq coherent.indexed, ?_, fun _ => rfl, ?_, coherent.unsafeKeys⟩
  · intro op
    exact congrArg Catalog.keys (coherent.catalogs op)
  · intro op
    refine (congrArg Catalog.rendered (coherent.catalogs op)).trans ?_
    cases op with
    | update => rfl
    | _ => exact List.mapIdx_eq_iff.mpr fun _ => List.getElem?_map

structure Represents (descriptors : List Descriptor) (types : TypeRegistry) (a : Assembly) : Prop where
  declared : List.Forall₂ (Property.Declared types) descriptors a.properties
  distinct : (a.properties.map Property.key).Nodup
  keys : ∀ p ∈ a.properties, Blank.isBlankText p.key = false ∧ '"' ∉ p.key.toList ∧
    ∀ c ∈ p.key.toList, isControl c = false
  lookup : ∀ key p, a.property? key = some p ↔ p ∈ a.properties ∧ p.key = key
  columns : ∀ op, a.columns op = (a.properties.filter (·.appliesTo op)).map Property.key
  columnsFor : ∀ op, a.columns op = (a.propertiesFor (.ofOperation op)).map Property.key
  declaredColumns : ∀ op, a.columns op = (descriptors.filter (·.joins op)).map (·.key)
  quoted : ∀ op, op ≠ .update → (a.renderedColumns op).map Sql.Fragment.render =
    (a.columns op).map fun key => "\"" ++ key ++ "\""
  placed : ∀ n : Nat, (a.renderedColumns .update)[n]?.map Sql.Fragment.render =
    (a.columns .update)[n]?.map fun key => "\"" ++ key ++ "\" = $" ++ toString (n + 1)
  unsafeKeys : a.unsafeKeys = (descriptors.filter fun d => !d.safe).map (·.key)

theorem assignment_render (key : String) (index : Nat) :
    Sql.Fragment.render [.name key, .text " = ", .place index] =
      "\"" ++ key ++ "\" = $" ++ toString index := by
  have shown : "\"" ++ key ++ "\"" ++ (" = " ++ ("$" ++ toString index)) =
      "\"" ++ key ++ "\" = $" ++ toString index := by
    apply String.toList_inj.mp
    simp
  simpa [Sql.Fragment.render, Sql.Piece.render, String.append_assoc] using shown

theorem assembled_represents (descriptors : List Descriptor) (types : TypeRegistry) (a : Assembly)
    (assembled : Assembled descriptors types a) :
    a.Represents descriptors types ∧ a.entity.Built ∧ a.Agrees a.entity := by
  have coherent := assembled_coherent descriptors types a assembled
  have declared := assembled_declared descriptors types a assembled
  have built := assembled_built descriptors types a assembled
  have agrees := coherent_agrees a coherent
  have wellFormed := built_wellFormed a.entity built
  refine ⟨?_, built, agrees⟩
  exact {
    declared := declared
    distinct := wellFormed.distinct
    keys := fun p member => by
      have valid := wellFormed.keys p member
      exact ⟨valid_key_given p.key valid, valid_key_unquoted p.key valid,
        valid_key_printable p.key valid⟩
    lookup := fun key p => by
      rw [agrees.property]
      exact property_iff a.entity wellFormed key p
    columns := agrees.columns
    columnsFor := agrees.columns
    declaredColumns := fun op => by
      rw [agrees.columns]
      exact declared_keys types descriptors a.properties _ _
        (fun d p declares => declares.operations op) declared
    quoted := fun op other => by
      rw [agrees.rendered, agrees.columns]
      cases op with
      | update => exact absurd rfl other
      | _ => simp [Entity.renderedColumns, Sql.Fragment.render, Sql.Piece.render]
    placed := fun n => by
      rw [agrees.rendered, agrees.columns]
      simp only [Entity.renderedColumns, List.getElem?_mapIdx, Option.map_map]
      exact congrArg (Option.map · _) (funext fun key => assignment_render key (n + 1))
    unsafeKeys := by
      rw [coherent.unsafeKeys]
      exact declared_keys types descriptors a.properties _ _
        (fun d p declares => congrArg not declares.safe) declared }

def userFields : List Descriptor :=
  [Declaration.plain { Declaration.of "id" "integer" with operations := some ["select", "delete"] },
   (Declaration.of "name" "string").plain,
   Declaration.plain { Declaration.of "password" "password" with
     safe := false, operations := some ["insert", "update"] },
   Declaration.plain { Declaration.of "email" "email" with operations := some ["Update", "select"] }]

theorem userFields_represented :
    ∃ a, build "User" "public.users" userFields (.builtin .standard) = .ok a ∧
      (a.withVerbs .patchAsMerge).columns .update = ["name", "password", "email"] ∧
      ((a.withVerbs .patchAsMerge).renderedColumns .update)[2]?.map Sql.Fragment.render =
        some "\"email\" = $3" ∧
      (a.withVerbs .patchAsMerge).unsafeKeys = ["password"] := by
  have whole := build_entity "User" "public.users" userFields (.builtin .standard)
  rw [ok_getD (Entity.build "User" "public.users" userFields (.builtin .standard))
    ⟨"", "", [], .standard, .standard⟩ (by decide +kernel)] at whole
  obtain ⟨a, built, _⟩ := (map_ok_iff _ _ _).mp whole
  obtain ⟨represents, _⟩ := assembled_represents userFields (.builtin .standard)
    (a.withVerbs .patchAsMerge) (.withVerbs a .patchAsMerge (.build "User" "public.users" a built))
  have columns : (a.withVerbs .patchAsMerge).columns .update = ["name", "password", "email"] := by
    rw [represents.declaredColumns]
    decide +kernel
  refine ⟨a, built, columns, ?_, ?_⟩
  · rw [represents.placed 2, columns]
    decide +kernel
  · rw [represents.unsafeKeys]
    decide +kernel

def shiftStart : Instant := ⟨1704067200, 900000⟩
def shiftEnd : Instant := ⟨1704067200, 100000⟩

def shiftFields : List Descriptor :=
  [Declaration.plain { Declaration.of "at" "date" with
    min := some (.date shiftStart), max := some (.date shiftEnd) }]

-- The order is looked at in whole milliseconds only, so the entity is built. No date is accepted.
theorem inverted_dates_assembled :
    ∃ a p, build "Shift" "shifts" shiftFields (.builtin .standard) = .ok a ∧ a.properties = [p] ∧
      p.bounds = ⟨some (.date shiftStart), some (.date shiftEnd)⟩ ∧
      shiftStart.le shiftEnd = false ∧ ∀ t, p.bounds.containsInstant t = false := by
  have whole := build_entity "Shift" "shifts" shiftFields (.builtin .standard)
  rw [ok_getD (Entity.build "Shift" "shifts" shiftFields (.builtin .standard))
    ⟨"", "", [], .standard, .standard⟩ (by decide +kernel)] at whole
  obtain ⟨a, built, _⟩ := (map_ok_iff _ _ _).mp whole
  have declared := assembled_declared shiftFields (.builtin .standard) a
    (.build "Shift" "shifts" a built)
  generalize listed : a.properties = properties at declared
  obtain _ | @⟨_, p, _, _, first, ⟨⟩⟩ := declared
  have bounds : p.bounds = ⟨some (.date shiftStart), some (.date shiftEnd)⟩ := first.bounds
  refine ⟨a, p, built, listed, bounds, by decide, ?_⟩
  intro t
  simp only [bounds, Bounds.containsInstant, Limit.toInstant?, Option.bind_some, Option.all_some,
    Instant.le, shiftStart, shiftEnd]
  grind

end Assembly

end EntitySchema

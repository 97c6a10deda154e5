import EntitySchema.Entity.Catalog
import EntitySchema.Proofs.Entity.Resolution
import Mathlib.Data.List.Nodup

set_option autoImplicit false

namespace EntitySchema

inductive Entity.Built : Entity → Prop where
  | build (name table : String) (descriptors : List Descriptor) (types : TypeRegistry) (e : Entity)
      (built : Entity.build name table descriptors types = .ok e) : Entity.Built e
  | withVerbs (e : Entity) (verbs : VerbMapping) (built : Entity.Built e) :
      Entity.Built (e.withVerbs verbs)
  | withLimits (e : Entity) (limits : SanitizeLimits) (built : Entity.Built e) :
      Entity.Built (e.withLimits limits)

structure Entity.WellFormed (e : Entity) : Prop where
  table : tableFault? e.table = none
  keys : ∀ p ∈ e.properties, keyFault? p.key = none
  distinct : (e.properties.map Property.key).Nodup

theorem resolveAll_accepted (types : TypeRegistry) (seen : List String)
    (descriptors : List Descriptor) (properties : List Property)
    (accepted : Entity.resolveAll types seen descriptors = .ok properties) :
    (∀ p ∈ properties, keyFault? p.key = none ∧ p.key ∉ seen) ∧
      (properties.map Property.key).Nodup := by
  induction descriptors generalizing seen properties with
  | nil =>
      cases accepted
      simp
  | cons d rest ih =>
      obtain ⟨p, resolved, accepted⟩ := (bind_ok_iff _ _ _).mp accepted
      have valid := (resolve_declared types d p resolved).valid
      split at accepted
      · cases accepted
      · rename_i unseen
        obtain ⟨others, othersAccepted, same⟩ := (bind_ok_iff _ _ _).mp accepted
        cases same
        obtain ⟨fresh, distinct⟩ := ih (p.key :: seen) others othersAccepted
        have unseenKey : p.key ∉ seen := by simpa using unseen
        constructor
        · intro q member
          rcases List.mem_cons.mp member with same | later
          · exact same ▸ ⟨valid, unseenKey⟩
          · have free := fresh q later
            exact ⟨free.1, fun inSeen => free.2 (by simp [inSeen])⟩
        · rw [List.map_cons, List.nodup_cons]
          refine ⟨?_, distinct⟩
          intro repeated
          obtain ⟨q, later, same⟩ := List.mem_map.mp repeated
          exact (fresh q later).2 (by simp [same])

theorem build_wellFormed (name table : String) (descriptors : List Descriptor)
    (types : TypeRegistry) (e : Entity)
    (built : Entity.build name table descriptors types = .ok e) : e.WellFormed := by
  unfold Entity.build at built
  cases fault : tableFault? table with
  | some fault' =>
      rw [fault] at built
      cases built
  | none =>
      rw [fault] at built
      obtain ⟨properties, resolved, same⟩ := (bind_ok_iff _ _ _).mp built
      cases same
      obtain ⟨valid, distinct⟩ := resolveAll_accepted types [] descriptors properties resolved
      exact ⟨fault, fun p member => (valid p member).1, distinct⟩

theorem built_wellFormed (e : Entity) (built : e.Built) : e.WellFormed := by
  induction built with
  | build name table descriptors types e built =>
      exact build_wellFormed name table descriptors types e built
  | withVerbs e verbs _ ih => exact ⟨ih.table, ih.keys, ih.distinct⟩
  | withLimits e limits _ ih => exact ⟨ih.table, ih.keys, ih.distinct⟩

theorem property_found (e : Entity) (key : String) (p : Property)
    (found : e.property? key = some p) : p ∈ e.properties ∧ p.key = key :=
  ⟨List.mem_of_find?_eq_some found, by simpa using List.find?_some found⟩

theorem property_iff (e : Entity) (wellFormed : e.WellFormed) (key : String) (p : Property) :
    e.property? key = some p ↔ p ∈ e.properties ∧ p.key = key := by
  constructor
  · exact property_found e key p
  · rintro ⟨member, same⟩
    have present : (e.property? key).isSome = true :=
      List.find?_isSome.mpr ⟨p, member, by simpa using same⟩
    obtain ⟨q, found⟩ := Option.isSome_iff_exists.mp present
    obtain ⟨declared, sameKey⟩ := property_found e key q found
    have only := List.inj_on_of_nodup_map wellFormed.distinct declared member (sameKey.trans same.symm)
    exact only ▸ found

theorem selectable_found (e : Entity) (key : String) (selectable : e.isSelectable key = true) :
    ∃ p, e.property? key = some p ∧ p.appliesTo .select = true := by
  unfold Entity.isSelectable at selectable
  cases found : e.property? key with
  | none => simp [found] at selectable
  | some p => exact ⟨p, rfl, by simpa [found] using selectable⟩

theorem selectable_column (e : Entity) (key : String) (p : Property)
    (found : e.property? key = some p) (readable : p.appliesTo .select = true) :
    key ∈ e.columns .select := by
  obtain ⟨member, same⟩ := property_found e key p found
  exact List.mem_map.mpr ⟨p, List.mem_filter.mpr ⟨member, readable⟩, same⟩

theorem valid_key_given (key : String) (valid : keyFault? key = none) :
    Blank.isBlankText key = false := by
  cases blank : Blank.isBlankText key with
  | false => rfl
  | true => simp [keyFault?, blank] at valid

theorem valid_key_unquoted (key : String) (valid : keyFault? key = none) : '"' ∉ key.toList := by
  intro quoted
  simp only [keyFault?, List.contains_iff_mem.mpr quoted, if_true] at valid
  split at valid <;> cases valid

theorem property_unquoted (e : Entity) (wellFormed : e.WellFormed) (key : String) (p : Property)
    (found : e.property? key = some p) : '"' ∉ key.toList := by
  obtain ⟨member, same⟩ := property_found e key p found
  exact same ▸ valid_key_unquoted p.key (wellFormed.keys p member)

theorem columns_unquoted (e : Entity) (wellFormed : e.WellFormed) (op : Operation) :
    ∀ key ∈ e.columns op, '"' ∉ key.toList := by
  intro key member
  obtain ⟨p, taken, same⟩ := List.mem_map.mp member
  have declared : p ∈ e.properties := (List.mem_filter.mp taken).1
  exact same ▸ valid_key_unquoted p.key (wellFormed.keys p declared)

theorem split_parts_subset (separator : Char) (chars : List Char) :
    ∀ part ∈ Format.splitOn separator chars, ∀ c ∈ part, c ∈ chars := by
  induction chars with
  | nil => simp [Format.splitOn]
  | cons first rest ih =>
      intro part member c inPart
      by_cases ends : first = separator
      · simp only [Format.splitOn, ends, if_true, List.mem_cons] at member
        rcases member with same | later
        · simp [same] at inPart
        · exact List.mem_cons_of_mem _ (ih part later c inPart)
      · simp only [Format.splitOn, if_neg ends] at member
        cases shape : Format.splitOn separator rest with
        | nil => simp_all
        | cons head others =>
            rw [shape] at member ih
            rcases List.mem_cons.mp member with same | later
            · subst same
              rcases List.mem_cons.mp inPart with here | inHead
              · simp [here]
              · exact List.mem_cons_of_mem _ (ih head (by simp) c inHead)
            · exact List.mem_cons_of_mem _ (ih part (by simp [later]) c inPart)

theorem tableParts_unquoted (table : String) (valid : tableFault? table = none) :
    ∀ part ∈ tableParts table, '"' ∉ part.toList := by
  intro part member quoted
  obtain ⟨chars, inSplit, same⟩ := List.mem_map.mp member
  subst same
  have inTable := split_parts_subset '.' table.toList chars inSplit '"' (by simpa using quoted)
  simp only [tableFault?, List.contains_iff_mem.mpr inTable, Bool.true_or, if_true] at valid
  split at valid <;> cases valid

theorem valid_key_printable (key : String) (valid : keyFault? key = none) :
    ∀ c ∈ key.toList, isControl c = false := by
  intro c member
  cases control : isControl c with
  | false => rfl
  | true =>
      have held : key.toList.any isControl = true := List.any_eq_true.mpr ⟨c, member, control⟩
      simp only [keyFault?, held, if_true] at valid
      split at valid
      · cases valid
      · split at valid <;> cases valid

theorem columns_printable (e : Entity) (wellFormed : e.WellFormed) (op : Operation) :
    ∀ key ∈ e.columns op, ∀ c ∈ key.toList, isControl c = false := by
  intro key member
  obtain ⟨p, taken, same⟩ := List.mem_map.mp member
  have declared : p ∈ e.properties := (List.mem_filter.mp taken).1
  exact same ▸ valid_key_printable p.key (wellFormed.keys p declared)

theorem tableParts_printable (table : String) (valid : tableFault? table = none) :
    ∀ part ∈ tableParts table, ∀ c ∈ part.toList, isControl c = false := by
  intro part member c inPart
  obtain ⟨chars, inSplit, same⟩ := List.mem_map.mp member
  subst same
  have inTable := split_parts_subset '.' table.toList chars inSplit c (by simpa using inPart)
  cases control : isControl c with
  | false => rfl
  | true =>
      have held : table.toList.any isControl = true := List.any_eq_true.mpr ⟨c, inTable, control⟩
      simp only [tableFault?, held, Bool.or_true, if_true] at valid
      split at valid <;> cases valid

theorem split_parts_nonempty (separator : Char) (chars : List Char) :
    Format.splitOn separator chars ≠ [] := by
  rw [Format.splitOn_eq]
  exact List.splitOn_ne_nil separator chars

theorem tableParts_joined (table : String) : ".".intercalate (tableParts table) = table := by
  have dot : ".".toList = ['.'] := rfl
  have chars : String.toList ∘ String.ofList = id := funext fun _ => String.toList_ofList
  apply String.toList_inj.mp
  rw [String.toList_intercalate, dot, tableParts, List.map_map, chars, List.map_id, Format.splitOn_eq,
    List.intercalate_splitOn]

def orders : Entity :=
  (Entity.build "Order" "shop.orders"
    [(Declaration.of "id" "integer").plain, (Declaration.of "cost $1" "number").plain,
     (Declaration.of "meta" "object").plain, (Declaration.of "itemsJsonAgg" "array").plain]
    (.builtin .standard)).toOption.getD ⟨"", "", [], .standard, .standard⟩

theorem orders_built : orders.Built :=
  .build _ _ _ _ _ (ok_getD _ _ (by decide +kernel))

end EntitySchema

import EntitySchema.Proofs.Entity.WellFormed

set_option autoImplicit false

namespace EntitySchema

def Descriptor.selects (d : Descriptor) : Bool :=
  match d.operations with
  | none => true
  | some tags => tags.any fun tag => Operation.parse? tag = some .select

def Entity.visible (e : Entity) : Entity :=
  { e with properties := e.properties.filter (·.appliesTo .select) }

theorem resolve_selects (types : TypeRegistry) (d : Descriptor) (p : Property)
    (accepted : Property.resolve types d = .ok p) : p.appliesTo .select = d.selects :=
  (resolve_declared types d p accepted).operations .select

-- Fewer keys have been seen when hidden descriptors are left out, so none that is left is refused.
theorem resolveAll_visible (types : TypeRegistry) (seen fewer : List String)
    (descriptors : List Descriptor) (properties : List Property)
    (accepted : Entity.resolveAll types seen descriptors = .ok properties)
    (among : ∀ key ∈ fewer, key ∈ seen) :
    Entity.resolveAll types fewer (descriptors.filter Descriptor.selects) =
      .ok (properties.filter (·.appliesTo .select)) := by
  induction descriptors generalizing seen fewer properties with
  | nil =>
      cases accepted
      rfl
  | cons d rest ih =>
      obtain ⟨p, resolved, accepted⟩ := (bind_ok_iff _ _ _).mp accepted
      have shown := resolve_selects types d p resolved
      split at accepted
      · cases accepted
      · rename_i unseen
        obtain ⟨others, othersAccepted, same⟩ := (bind_ok_iff _ _ _).mp accepted
        cases same
        cases visible : d.selects with
        | false =>
            rw [List.filter_cons_of_neg (by simp [visible]),
              List.filter_cons_of_neg (by simp [shown, visible])]
            exact ih (p.key :: seen) fewer others othersAccepted fun key member =>
              List.mem_cons_of_mem _ (among key member)
        | true =>
            have new : fewer.contains p.key = false := by
              cases repeated : fewer.contains p.key with
              | false => rfl
              | true => exact absurd (by simpa using among p.key (by simpa using repeated)) unseen
            have later := ih (p.key :: seen) (p.key :: fewer) others othersAccepted (by
              intro key member
              rcases List.mem_cons.mp member with same | inFewer
              · simp [same]
              · exact List.mem_cons_of_mem _ (among key inFewer))
            rw [List.filter_cons_of_pos visible, List.filter_cons_of_pos (by simp [shown, visible]),
              Entity.resolveAll, resolved]
            simp only [bind, Except.bind, new, later]
            rfl

theorem build_visible (name table : String) (descriptors : List Descriptor) (types : TypeRegistry)
    (e : Entity) (built : Entity.build name table descriptors types = .ok e) :
    Entity.build name table (descriptors.filter Descriptor.selects) types = .ok e.visible := by
  unfold Entity.build at built ⊢
  cases fault : tableFault? table with
  | some fault' =>
      rw [fault] at built
      cases built
  | none =>
      rw [fault] at built
      obtain ⟨properties, resolved, same⟩ := (bind_ok_iff _ _ _).mp built
      cases same
      have shown := resolveAll_visible types [] [] descriptors properties resolved (by simp)
      exact (bind_ok_iff _ _ _).mpr ⟨_, shown, rfl⟩

theorem find_filter_of_distinct (properties : List Property) (distinct : (properties.map Property.key).Nodup)
    (key : String) (keep : Property → Bool) :
    (properties.filter keep).find? (·.key == key) =
      (properties.find? (·.key == key)).filter keep := by
  induction properties with
  | nil => rfl
  | cons p rest ih =>
      rw [List.map_cons, List.nodup_cons] at distinct
      have later := ih distinct.2
      by_cases here : p.key = key
      · have found : (p :: rest).find? (·.key == key) = some p := by simp [here]
        rw [found]
        cases kept : keep p with
        | true => simp [Option.filter, kept, here]
        | false =>
            have none : ∀ q ∈ rest.filter keep, ¬(q.key == key) = true := by
              intro q member same
              have inRest := (List.mem_filter.mp member).1
              exact distinct.1 (List.mem_map.mpr ⟨q, inRest, by simpa [here] using same⟩)
            simpa [List.filter_cons, Option.filter, kept] using none
      · cases kept : keep p <;> simpa [List.filter_cons, kept, here] using later

theorem property_visible (e : Entity) (wellFormed : e.WellFormed) (key : String) :
    e.visible.property? key = (e.property? key).filter (·.appliesTo .select) :=
  find_filter_of_distinct e.properties wellFormed.distinct key _

theorem columns_visible (e : Entity) : e.visible.columns .select = e.columns .select := by
  simp [Entity.columns, Entity.propertiesFor, Entity.visible, List.filter_filter]

theorem isSelectable_visible (e : Entity) (wellFormed : e.WellFormed) (key : String) :
    e.visible.isSelectable key = e.isSelectable key := by
  rw [Entity.isSelectable, property_visible e wellFormed, Entity.isSelectable]
  cases e.property? key with
  | none => rfl
  | some p => cases shown : p.appliesTo .select <;> simp [Option.filter, shown]

end EntitySchema

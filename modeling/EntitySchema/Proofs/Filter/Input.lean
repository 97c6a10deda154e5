import EntitySchema.Filter.Input
import EntitySchema.Proofs.Json.Reading

set_option autoImplicit false

namespace EntitySchema

open Json

theorem Connective.read_name (origin : Origin) (c : Connective) :
    Connective.read origin (.ofJson (.string c.name)) = .ok c := by
  apply Reader.choice_of_name
  cases c <;> rfl

namespace Filter

def members (f : Filter) : List (String × Json) :=
  (f.matchMode.toList.map fun name => ("matchMode", .string name)) ++
    ((f.connective.toList.map fun c => ("operator", .string c.name)) ++
      ((f.subProps.toList.map fun names => ("subProps", .array (names.map .string))) ++
        (((some f.value).toList.map fun value => ("value", value)) ++ [])))

theorem toJson_members (f : Filter) : f.toJson = .object f.members := by
  simp [toJson, members]

theorem members_names (f : Filter) :
    (f.members.map Prod.fst).Sublist ["matchMode", "operator", "subProps", "value"] := by
  simp only [members, List.map_append]
  exact (Reader.given_names _ _ _).append ((Reader.given_names _ _ _).append
    ((Reader.given_names _ _ _).append ((Reader.given_names _ _ _).append (List.Sublist.refl _))))

theorem members_known (f : Filter) :
    Reader.Known fields (f.members.map fun (key, json) => (key, Tree.ofJson json)) := by
  refine Reader.known_of_names fields ["matchMode", "operator", "subProps", "value"] _ ?_
    (by decide) (by decide)
  simpa [List.map_map, Function.comp_def] using f.members_names

theorem toJson_ordered (f : Filter) (ordered : f.value.Ordered) : f.toJson.Ordered := by
  rw [toJson_members]
  refine ⟨Members.sorted_of_names _ _ f.members_names (by decide), ?_⟩
  rw [membersOrdered_iff]
  intro entry member
  simp only [members, List.append_nil, List.mem_append, List.mem_map, Option.mem_toList] at member
  rcases member with ⟨_, _, rfl⟩ | ⟨_, _, rfl⟩ | ⟨names, _, rfl⟩ | ⟨_, given, rfl⟩
  · trivial
  · trivial
  · exact itemsOrdered_strings names
  · exact Option.some.inj given ▸ ordered

theorem read_toJson (origin : Origin) (f : Filter) (ordered : f.value.Ordered) :
    Filter.read origin (.ofJson f.toJson) = .ok f := by
  rw [toJson_members, Filter.read,
    Reader.record_of_members _ _ _ _ _ _ (by decide) (members_known f), members]
  rw [Reader.given_then _ _ _ f.matchMode "matchMode" .string
    (fun g given => { g with matchMode := given }) rfl fun name _ => rfl]
  rw [Reader.given_then _ _ _ f.connective "operator" (fun c => .string c.name)
    (fun g given => { g with connective := given }) rfl]
  · rw [Reader.given_then _ _ _ f.subProps "subProps" (fun names => .array (names.map .string))
      (fun g given => { g with subProps := given }) rfl]
    · rw [Reader.given_then _ _ _ (some f.value) "value" (fun value => value)
        (fun g given => { g with value := given.getD g.value }) rfl]
      · rfl
      · rintro value ⟨⟩
        exact (bind_ok_iff _ _ _).mpr ⟨_, Reader.value_ofJson f.value ordered, rfl⟩
    · intro names _
      have read := Reader.optional_of_given _ _ names (by simp [Tree.ofJson]) (Reader.strings_of_strings names)
      exact (bind_ok_iff _ _ _).mpr ⟨_, read, rfl⟩
  · intro c _
    have read := Reader.optional_of_given _ _ c (by simp [Tree.ofJson]) (Connective.read_name origin c)
    exact (bind_ok_iff _ _ _).mpr ⟨_, read, rfl⟩

end Filter

namespace FilterInput

theorem ofJson_array (items : List Json) :
    ofJson (.array items) =
      match Json.readValue (fun origin => Reader.list (Filter.read origin)) (.array items) with
      | .ok filters => .many filters
      | .error reason => .malformed (.array items) reason := by
  unfold ofJson
  cases Json.readValue (fun origin => Reader.list (Filter.read origin)) (.array items) <;> rfl

theorem ofJson_other (raw : Json) (other : ∀ items, raw ≠ .array items) :
    ofJson raw =
      match Json.readValue Filter.read raw with
      | .ok f => .single f
      | .error reason => .malformed raw reason := by
  cases raw with
  | array items => exact absurd rfl (other items)
  | _ =>
      unfold ofJson
      generalize Json.readValue Filter.read _ = parsed
      cases parsed <;> rfl

theorem raw_of_malformed (source raw : Json) (reason : ShapeError)
    (read : ofJson source = .malformed raw reason) : raw = source := by
  by_cases several : ∃ items, source = .array items
  · obtain ⟨items, rfl⟩ := several
    rw [ofJson_array] at read
    split at read
    · cases read
    · exact (FilterInput.malformed.inj read).1.symm
  · rw [ofJson_other source (not_exists.mp several)] at read
    split at read
    · cases read
    · exact (FilterInput.malformed.inj read).1.symm

inductive Sound : FilterInput → Prop where
  | single (f : Filter) (ordered : f.value.Ordered) : Sound (.single f)
  | many (filters : List Filter) (ordered : ∀ f ∈ filters, f.value.Ordered) : Sound (.many filters)
  | malformed (source raw : Json) (reason : ShapeError) (ordered : source.Ordered)
      (read : ofJson source = .malformed raw reason) : Sound (.malformed raw reason)

theorem ofJson_toJson (input : FilterInput) (sound : input.Sound) : ofJson input.toJson = input := by
  cases sound with
  | single f ordered =>
      have read : Json.readValue Filter.read f.toJson = .ok f := Filter.read_toJson .value f ordered
      rw [toJson, ofJson_other f.toJson (fun items same => nomatch same), read]
  | many filters ordered =>
      have each : List.Forall₂ (fun item f => Filter.read .value (.ofJson item) = .ok f)
          (filters.map Filter.toJson) filters := by
        rw [List.forall₂_map_left_iff, List.forall₂_same]
        intro f member
        exact Filter.read_toJson .value f (ordered f member)
      have read : Json.readValue (fun origin => Reader.list (Filter.read origin))
          (.array (filters.map Filter.toJson)) = .ok filters := Reader.list_of_each _ _ _ each
      rw [toJson, ofJson_array, read]
  | malformed source raw reason ordered read =>
      have same := raw_of_malformed source raw reason read
      rw [toJson, same, read, same]

theorem toJson_ordered (input : FilterInput) (sound : input.Sound) : input.toJson.Ordered := by
  cases sound with
  | single f ordered => exact f.toJson_ordered ordered
  | many filters ordered =>
      apply (itemsOrdered_iff _).mpr
      intro item member
      obtain ⟨f, present, rfl⟩ := List.mem_map.mp member
      exact f.toJson_ordered (ordered f present)
  | malformed source raw reason ordered read =>
      exact raw_of_malformed source raw reason read ▸ ordered

end FilterInput

end EntitySchema

import EntitySchema.Proofs.Request.Fields
import EntitySchema.Sql.Select

set_option autoImplicit false

namespace EntitySchema

open Json

namespace SelectRequest

structure Sound (request : SelectRequest) : Prop where
  sorted : Members.Sorted request.filters
  entries : ∀ entry ∈ request.filters, entry.2.Sound

def named (request : SelectRequest) : RequestFields where
  first := some request.first
  rows := request.rows
  sortField := request.sortField
  sortOrder := some request.sortOrder
  filters := some (request.filters.map fun (field, input) => (field, input.toJson))
  pagination := some request.pagination
  connective := some request.connective

theorem toJson_named (request : SelectRequest) : request.toJson = request.named.toJson := by
  simp [toJson, RequestFields.toJson, RequestFields.members, named, FilterMap.toJson]

theorem named_laidOver (request : SelectRequest) (entries : ∀ entry ∈ request.filters, entry.2.Sound) :
    request.named.laidOver .all = request := by
  have kept : FilterMap.ofMembers (request.filters.map fun (field, input) => (field, input.toJson)) =
      request.filters := by
    rw [FilterMap.ofMembers, List.map_map]
    refine (List.map_congr_left fun entry present => ?_).trans (List.map_id _)
    exact congrArg (entry.1, ·) (FilterInput.ofJson_toJson entry.2 (entries entry present))
  have some_or : ∀ {α : Type} (given : Option α), (given <|> none) = given := by
    intro α given
    cases given <;> rfl
  simp only [RequestFields.laidOver, named, all, some_or, Option.map_some, Option.getD_some, kept]

theorem filters_ordered (filters : FilterMap) (sorted : Members.Sorted filters)
    (entries : ∀ entry ∈ filters, entry.2.Sound) :
    (Json.object (filters.map fun (field, input) => (field, input.toJson))).Ordered := by
  refine ⟨Members.sorted_map FilterInput.toJson filters sorted, (membersOrdered_iff _).mpr ?_⟩
  intro entry member
  obtain ⟨⟨field, input⟩, present, rfl⟩ := List.mem_map.mp member
  exact input.toJson_ordered (entries (field, input) present)

theorem read_written (request : SelectRequest) (sound : request.Sound) :
    Json.readValue read request.toJson = .ok request ∧
      ∀ (e : Entity) (modes : MatchModes),
        (Json.readValue read request.toJson).map (e.select modes) = .ok (e.select modes request) := by
  have whole := RequestFields.read_toJson .value request.named (by
    rintro members ⟨⟩
    exact filters_ordered request.filters sound.sorted sound.entries)
  rw [named_laidOver request sound.entries, ← toJson_named] at whole
  have back : Json.readValue read request.toJson = .ok request := whole
  refine ⟨back, ?_⟩
  intro e modes
  rw [back]
  rfl

def mixedRequest : SelectRequest where
  first := 20
  rows := some 10
  sortField := some "title"
  sortOrder := .descending
  filters :=
    [("author", .single ⟨.string "ann", some "contains", none, some .or⟩),
     ("genre", .many []),
     ("shelf", .malformed (.string "lent") (.invalidType (.string "lent") "struct Filter")),
     ("title", .many [⟨.null, none, none, none⟩, ⟨.array [.string "x"], none, some ["short"], none⟩])]
  pagination := true
  connective := .or

theorem mixedRequest_read_back :
    mixedRequest.Sound ∧ Json.readValue read mixedRequest.toJson = .ok mixedRequest := by
  have sorted : Members.Sorted mixedRequest.filters := by
    unfold Members.Sorted mixedRequest
    decide
  have entries : ∀ entry ∈ mixedRequest.filters, entry.2.Sound := by
    unfold mixedRequest
    simp only [List.forall_mem_cons]
    refine ⟨.single _ trivial, .many _ (by simp), .malformed (.string "lent") _ _ trivial rfl,
      .many _ ?_, by simp⟩
    simp [Ordered, ItemsOrdered]
  exact ⟨⟨sorted, entries⟩, (read_written mixedRequest ⟨sorted, entries⟩).1⟩

end SelectRequest

end EntitySchema

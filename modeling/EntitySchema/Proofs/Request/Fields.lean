import EntitySchema.Proofs.Filter.Input
import EntitySchema.Request.Select

set_option autoImplicit false

namespace EntitySchema

open Json

theorem SortOrder.read_name (origin : Origin) (order : SortOrder) :
    SortOrder.read origin (.ofJson (.string order.name)) = .ok order := by
  apply Reader.choice_of_name
  cases order <;> rfl

def FilterMap.ofMembers (members : List (String × Json)) : FilterMap :=
  members.map fun (field, raw) => (field, FilterInput.ofJson raw)

theorem FilterMap.read_of_whole (tree : Tree) (members : List (String × Json))
    (whole : tree.toJson? = some (.object members)) :
    FilterMap.read tree = .ok (FilterMap.ofMembers members) := by
  refine Reader.entries_of_whole _ tree members FilterInput.ofJson whole ?_
  intro part json wholePart
  rw [Reader.value_of_whole part json wholePart]
  rfl

structure RequestFields where
  first : Option UInt64
  rows : Option UInt64
  sortField : Option String
  sortOrder : Option SortOrder
  filters : Option (List (String × Json))
  pagination : Option Bool
  connective : Option Connective

namespace RequestFields

def members (fields : RequestFields) : List (String × Json) :=
  (fields.filters.toList.map fun members => ("filters", .object members)) ++
    ((fields.first.toList.map fun n => ("first", .ofCount n)) ++
      ((fields.connective.toList.map fun c => ("operator", .string c.name)) ++
        ((fields.pagination.toList.map fun b => ("pagination", .bool b)) ++
          ((fields.rows.toList.map fun n => ("rows", .ofCount n)) ++
            ((fields.sortField.toList.map fun field => ("sortField", .string field)) ++
              ((fields.sortOrder.toList.map fun order => ("sortOrder", .string order.name)) ++ []))))))

def toJson (fields : RequestFields) : Json := .object fields.members

def laidOver (fields : RequestFields) (start : SelectRequest) : SelectRequest where
  first := fields.first.getD start.first
  rows := fields.rows <|> start.rows
  sortField := fields.sortField <|> start.sortField
  sortOrder := fields.sortOrder.getD start.sortOrder
  filters := (fields.filters.map FilterMap.ofMembers).getD start.filters
  pagination := fields.pagination.getD start.pagination
  connective := fields.connective.getD start.connective

theorem members_known (fields : RequestFields) :
    Reader.Known SelectRequest.fields (fields.members.map fun (key, json) => (key, Tree.ofJson json)) := by
  refine Reader.known_of_names SelectRequest.fields
    ["filters", "first", "operator", "pagination", "rows", "sortField", "sortOrder"] _ ?_
    (by decide) (by decide)
  have listed : (fields.members.map Prod.fst).Sublist
      (["filters"] ++ (["first"] ++ (["operator"] ++ (["pagination"] ++ (["rows"] ++
        (["sortField"] ++ (["sortOrder"] ++ []))))))) := by
    simp only [members, List.map_append]
    repeat' apply List.Sublist.append
    all_goals first | exact Reader.given_names _ _ _ | exact List.Sublist.refl _
  simpa [List.map_map, Function.comp_def] using listed

theorem read_toJson (origin : Origin) (fields : RequestFields)
    (ordered : ∀ members ∈ fields.filters, (Json.object members).Ordered) :
    SelectRequest.read origin (.ofJson fields.toJson) = .ok (fields.laidOver .all) := by
  rw [toJson, SelectRequest.read,
    Reader.record_of_members _ _ _ _ _ _ (by decide) (members_known fields), members]
  have filters : ∀ members ∈ fields.filters, ∀ request,
      SelectRequest.set origin request "filters" (.ofJson (.object members)) =
        .ok { request with filters := FilterMap.ofMembers members } := by
    intro members given request
    have whole := Tree.toJson_ofJson (.object members) (ordered members given)
    exact (bind_ok_iff _ _ _).mpr ⟨_, FilterMap.read_of_whole _ members whole, rfl⟩
  have first : ∀ n request, SelectRequest.set origin request "first" (.ofJson (.ofCount n)) =
      .ok { request with first := n } := by
    intro n request
    exact (bind_ok_iff _ _ _).mpr ⟨_, Reader.count_ofCount n, rfl⟩
  have rows : ∀ n request, SelectRequest.set origin request "rows" (.ofJson (.ofCount n)) =
      .ok { request with rows := some n } := by
    intro n request
    have read := Reader.optional_of_given _ _ n (by simp [Json.ofCount, Tree.ofJson]) (Reader.count_ofCount n)
    exact (bind_ok_iff _ _ _).mpr ⟨_, read, rfl⟩
  have sortOrder : ∀ order request,
      SelectRequest.set origin request "sortOrder" (.ofJson (.string (SortOrder.name order))) =
        .ok { request with sortOrder := order } := by
    intro order request
    exact (bind_ok_iff _ _ _).mpr ⟨_, SortOrder.read_name origin order, rfl⟩
  have connective : ∀ c request,
      SelectRequest.set origin request "operator" (.ofJson (.string (Connective.name c))) =
        .ok { request with connective := c } := by
    intro c request
    exact (bind_ok_iff _ _ _).mpr ⟨_, Connective.read_name origin c, rfl⟩
  rw [Reader.given_then _ _ _ fields.filters "filters" _
      (fun r given => { r with filters := (given.map FilterMap.ofMembers).getD r.filters }) rfl
      fun members given => filters members given _,
    Reader.given_then _ _ _ fields.first "first" _
      (fun r given => { r with first := given.getD r.first }) rfl fun n _ => first n _,
    Reader.given_then _ _ _ fields.connective "operator" _
      (fun r given => { r with connective := given.getD r.connective }) rfl fun c _ => connective c _,
    Reader.given_then _ _ _ fields.pagination "pagination" _
      (fun r given => { r with pagination := given.getD r.pagination }) rfl fun b _ => rfl,
    Reader.given_then _ _ _ fields.rows "rows" _
      (fun r given => { r with rows := given <|> r.rows }) rfl fun n _ => rows n _,
    Reader.given_then _ _ _ fields.sortField "sortField" _
      (fun r given => { r with sortField := given <|> r.sortField }) rfl fun field _ => rfl,
    Reader.given_then _ _ _ fields.sortOrder "sortOrder" _
      (fun r given => { r with sortOrder := given.getD r.sortOrder }) rfl fun order _ => sortOrder order _]
  rfl

end RequestFields

end EntitySchema

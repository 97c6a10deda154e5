import EntitySchema.Proofs.Request.Fields
import EntitySchema.Proofs.Text.Blank
import EntitySchema.Request.Parameters
import Mathlib.Data.Option.Basic

set_option autoImplicit false

namespace EntitySchema

theorem toString_digits (n : UInt64) : (toString n).toList = Nat.toDigits 10 n.toNat := by
  change (toString n.toNat).toList = _
  rw [Nat.toString_eq_ofList_toDigits, String.toList_ofList]

theorem toDigits_digit (n : Nat) (c : Char) (member : c ∈ Nat.toDigits 10 n) : c.isDigit = true :=
  Nat.isDigit_of_mem_toDigits (by decide) (by decide) member

theorem digitsValue_toDigits (n : Nat) : digitsValue (Nat.toDigits 10 n) = n := by
  have value := Nat.ofDigitChars_ten_toDigits (n := n)
  simpa only [Nat.ofDigitChars, digitsValue, Nat.mul_comm] using value

theorem readCount_toString (n : UInt64) : readCount? (toString n) = some n := by
  have unsigned : ∀ rest, Nat.toDigits 10 n.toNat ≠ '+' :: rest := by
    intro rest signed
    exact absurd (toDigits_digit n.toNat '+' (signed ▸ List.mem_cons_self)) (by decide)
  have each : (Nat.toDigits 10 n.toNat).all Char.isDigit = true :=
    List.all_eq_true.mpr (toDigits_digit n.toNat)
  have value : readDigits? (Nat.toDigits 10 n.toNat) = some n.toNat := by
    rw [readDigits?, if_pos ⟨Nat.toDigits_ne_nil, each⟩, digitsValue_toDigits]
  have fits : n.toNat < 0x10000000000000000 := n.toNat_lt
  rw [readCount?, toString_digits]
  split
  · rename_i rest signed
    exact absurd signed (unsigned rest)
  · simp [value, fits]

namespace Parameter

theorem count_toString (name : String) (n : UInt64) : count name (toString n) = .ok n := by
  have bare : Blank.trim (toString n) = toString n := by
    rw [Blank.trim_eq_iff]
    apply Blank.bare_of_all
    intro c member
    rw [toString_digits] at member
    exact Blank.digit_bare c (toDigits_digit n.toNat c member)
  unfold count
  rw [bare, readCount_toString]

theorem sortOrder_name (name : String) (order : SortOrder) : sortOrder name order.name = .ok order := by
  cases order <;> rfl

def flagText (b : Bool) : String := if b then "true" else "false"

theorem flag_text (name : String) (b : Bool) : flag name (flagText b) = .ok b := by
  cases b <;> rfl

theorem connective_name (name : String) (c : Connective) : connective name c.name = .ok c := by
  cases c <;> rfl

theorem filters_text (text : String) (members : List (String × Json))
    (whole : Json.read? text = some (.object members)) :
    filters text = .ok (FilterMap.ofMembers members) := by
  have some : Blank.isBlankText text = false := by
    by_contra blank
    rw [Json.read_blank text (by simpa using blank)] at whole
    cases whole
  unfold Json.read? at whole
  split at whole
  · rename_i tree complete
    rw [filters, some, Json.readText, complete]
    simp only [FilterMap.read_of_whole tree members whole]
    rfl
  · cases whole

theorem apply_cases (request result : SelectRequest) (name value : String)
    (applied : apply request name value = .ok result) :
    (name = "first" ∧ ∃ n, count name value = .ok n ∧ { request with first := n } = result) ∨
    (name = "rows" ∧ ∃ n, count name value = .ok n ∧ { request with rows := some n } = result) ∨
    (name = "sortField" ∧ { request with sortField := fieldName value } = result) ∨
    (name = "sortOrder" ∧
      ∃ order, sortOrder name value = .ok order ∧ { request with sortOrder := order } = result) ∨
    (name = "pagination" ∧ ∃ b, flag name value = .ok b ∧ { request with pagination := b } = result) ∨
    (name = "operator" ∧
      ∃ c, connective name value = .ok c ∧ { request with connective := c } = result) ∨
    (name = "filters" ∧ ∃ map, filters value = .ok map ∧ { request with filters := map } = result) ∨
    (name ∉ ["first", "rows", "sortField", "sortOrder", "pagination", "operator", "filters"] ∧
      request = result) := by
  unfold apply at applied
  split at applied
  · obtain ⟨n, read, same⟩ := (bind_ok_iff _ _ _).mp applied
    exact .inl ⟨rfl, n, read, Except.ok.inj same⟩
  · obtain ⟨n, read, same⟩ := (bind_ok_iff _ _ _).mp applied
    exact .inr (.inl ⟨rfl, n, read, Except.ok.inj same⟩)
  · exact .inr (.inr (.inl ⟨rfl, Except.ok.inj applied⟩))
  · obtain ⟨order, read, same⟩ := (bind_ok_iff _ _ _).mp applied
    exact .inr (.inr (.inr (.inl ⟨rfl, order, read, Except.ok.inj same⟩)))
  · obtain ⟨b, read, same⟩ := (bind_ok_iff _ _ _).mp applied
    exact .inr (.inr (.inr (.inr (.inl ⟨rfl, b, read, Except.ok.inj same⟩))))
  · obtain ⟨c, read, same⟩ := (bind_ok_iff _ _ _).mp applied
    exact .inr (.inr (.inr (.inr (.inr (.inl ⟨rfl, c, read, Except.ok.inj same⟩)))))
  · obtain ⟨map, read, same⟩ := (bind_ok_iff _ _ _).mp applied
    exact .inr (.inr (.inr (.inr (.inr (.inr (.inl ⟨rfl, map, read, Except.ok.inj same⟩))))))
  · refine .inr (.inr (.inr (.inr (.inr (.inr (.inr ⟨?_, Except.ok.inj applied⟩))))))
    simp_all

def Sets {β : Type} (name : String) (read : String → Except QueryError β)
    (part : SelectRequest → β) : Prop :=
  ∀ request result other value, apply request other value = .ok result →
    if other = name then read value = .ok (part result) else part result = part request

theorem sets_each :
    Sets "first" (count "first") SelectRequest.first ∧
    Sets "rows" (fun value => (count "rows" value).map some) SelectRequest.rows ∧
    Sets "sortField" (fun value => .ok (fieldName value)) SelectRequest.sortField ∧
    Sets "sortOrder" (sortOrder "sortOrder") SelectRequest.sortOrder ∧
    Sets "pagination" (flag "pagination") SelectRequest.pagination ∧
    Sets "operator" (connective "operator") SelectRequest.connective ∧
    Sets "filters" filters SelectRequest.filters := by
  refine ⟨?_, ?_, ?_, ?_, ?_, ?_, ?_⟩ <;> intro request result other value applied <;>
  rcases apply_cases request result other value applied with
    ⟨rfl, n, read, rfl⟩ | ⟨rfl, n, read, rfl⟩ | ⟨rfl, rfl⟩ | ⟨rfl, order, read, rfl⟩ |
    ⟨rfl, b, read, rfl⟩ | ⟨rfl, c, read, rfl⟩ | ⟨rfl, map, read, rfl⟩ | ⟨unknown, rfl⟩ <;>
  simp_all [Except.map]

variable {α β : Type}

theorem Sets.run {name : String} {read : String → Except QueryError β} {part : SelectRequest → β}
    (sets : Sets name read part) (parameters : List (String × String))
    (distinct : (parameters.map Prod.fst).Nodup) (request result : SelectRequest)
    (applied : parameters.foldlM (fun request (name, value) => apply request name value) request =
      .ok result) :
    (parameters.lookup name).elim (part result = part request) fun value => read value = .ok (part result) := by
  induction parameters generalizing request with
  | nil => cases applied; rfl
  | cons parameter rest ih =>
      obtain ⟨other, value⟩ := parameter
      obtain ⟨middle, step, later⟩ := (bind_ok_iff _ _ _).mp applied
      obtain ⟨fresh, distinct⟩ := List.nodup_cons.mp distinct
      have after := ih distinct middle later
      have set := sets request middle other value step
      rw [lookup_cons_if]
      by_cases here : name = other
      · subst here
        have none : rest.lookup name = none := by
          rw [List.lookup_eq_none_iff]
          intro entry later
          have differs : name ≠ entry.1 := fun same => fresh (List.mem_map.mpr ⟨entry, later, same.symm⟩)
          simpa using differs
        rw [none, Option.elim_none] at after
        rw [if_pos rfl] at set
        rw [if_pos rfl, Option.elim_some, set, after]
      · rw [if_neg (Ne.symm here)] at set
        rw [if_neg here, ← set]
        exact after

theorem Sets.given {name : String} {read : String → Except QueryError β} {part : SelectRequest → β}
    (sets : Sets name read part) (parameters : List (String × String))
    (distinct : (parameters.map Prod.fst).Nodup) (request result : SelectRequest)
    (applied : parameters.foldlM (fun request (name, value) => apply request name value) request =
      .ok result)
    (given : Option α) (meant : α → β)
    (told : Option.Rel (fun text a => read text = .ok (meant a)) (parameters.lookup name) given) :
    part result = (given.map meant).getD (part request) := by
  have run := sets.run parameters distinct request result applied
  generalize parameters.lookup name = text at run told
  cases told with
  | none => exact run
  | some reads =>
      rw [Option.elim_some, reads] at run
      exact (Except.ok.inj run).symm

theorem run_of_each (parameters : List (String × String))
    (each : ∀ parameter ∈ parameters, ∀ request, ∃ result,
      apply request parameter.1 parameter.2 = .ok result)
    (request : SelectRequest) :
    ∃ result, parameters.foldlM (fun request (name, value) => apply request name value) request =
      .ok result := by
  induction parameters generalizing request with
  | nil => exact ⟨request, rfl⟩
  | cons parameter rest ih =>
      obtain ⟨middle, step⟩ := each parameter List.mem_cons_self request
      obtain ⟨result, later⟩ := ih (fun other member => each other (List.mem_cons_of_mem _ member)) middle
      exact ⟨result, (bind_ok_iff _ _ _).mpr ⟨middle, step, later⟩⟩

end Parameter

namespace RequestFields

structure Carried (fields : RequestFields) (parameters : List (String × String)) : Prop where
  distinct : (parameters.map Prod.fst).Nodup
  first : parameters.lookup "first" = fields.first.map toString
  rows : parameters.lookup "rows" = fields.rows.map toString
  sortField : parameters.lookup "sortField" = fields.sortField
  sortOrder : parameters.lookup "sortOrder" = fields.sortOrder.map SortOrder.name
  pagination : parameters.lookup "pagination" = fields.pagination.map Parameter.flagText
  connective : parameters.lookup "operator" = fields.connective.map Connective.name
  filters : Option.Rel (fun text members => Json.read? text = some (.object members))
    (parameters.lookup "filters") fields.filters

structure Told (fields : RequestFields) (parameters : List (String × String)) : Prop where
  distinct : (parameters.map Prod.fst).Nodup
  first : Option.Rel (fun text n => Parameter.count "first" text = .ok n)
    (parameters.lookup "first") fields.first
  rows : Option.Rel (fun text n => Parameter.count "rows" text = .ok n)
    (parameters.lookup "rows") fields.rows
  sortField : Option.Rel (fun text field => Parameter.fieldName text = some field)
    (parameters.lookup "sortField") fields.sortField
  sortOrder : Option.Rel (fun text order => Parameter.sortOrder "sortOrder" text = .ok order)
    (parameters.lookup "sortOrder") fields.sortOrder
  pagination : Option.Rel (fun text b => Parameter.flag "pagination" text = .ok b)
    (parameters.lookup "pagination") fields.pagination
  connective : Option.Rel (fun text c => Parameter.connective "operator" text = .ok c)
    (parameters.lookup "operator") fields.connective
  filters : Option.Rel (fun text members => Parameter.filters text = .ok (FilterMap.ofMembers members))
    (parameters.lookup "filters") fields.filters

theorem rel_map {α β : Type} (R : β → α → Prop) (write : α → β) (given : Option α)
    (written : ∀ a ∈ given, R (write a) a) : Option.Rel R (given.map write) given := by
  cases given with
  | none => exact .none
  | some a => exact .some (written a rfl)

theorem rel_imp {α β : Type} (R S : β → α → Prop) (weaker : ∀ text a, R text a → S text a)
    (text : Option β) (given : Option α) (told : Option.Rel R text given) : Option.Rel S text given := by
  cases told with
  | some reads => exact .some (weaker _ _ reads)
  | none => exact .none

theorem rel_some {α β : Type} (R : β → α → Prop) (text : Option β) (given : Option α)
    (told : Option.Rel R text given) (value : β) (found : text = some value) : ∃ a, R value a := by
  subst found
  cases told with
  | some reads => exact ⟨_, reads⟩

theorem Carried.told (fields : RequestFields) (parameters : List (String × String))
    (carried : fields.Carried parameters)
    (bare : ∀ field ∈ fields.sortField, Parameter.fieldName field = some field) :
    fields.Told parameters where
  distinct := carried.distinct
  first := carried.first ▸ rel_map _ _ _ fun n _ => Parameter.count_toString _ n
  rows := carried.rows ▸ rel_map _ _ _ fun n _ => Parameter.count_toString _ n
  sortField := by
    rw [carried.sortField]
    simpa using rel_map (fun text field => Parameter.fieldName text = some field) id fields.sortField bare
  sortOrder := carried.sortOrder ▸ rel_map _ _ _ fun order _ => Parameter.sortOrder_name _ order
  pagination := carried.pagination ▸ rel_map _ _ _ fun b _ => Parameter.flag_text _ b
  connective := carried.connective ▸ rel_map _ _ _ fun c _ => Parameter.connective_name _ c
  filters := rel_imp _ _ Parameter.filters_text _ _ carried.filters

theorem Told.each (fields : RequestFields) (parameters : List (String × String))
    (told : fields.Told parameters) (parameter : String × String) (member : parameter ∈ parameters)
    (request : SelectRequest) :
    ∃ result, Parameter.apply request parameter.1 parameter.2 = .ok result := by
  obtain ⟨name, value⟩ := parameter
  have found := lookup_of_mem parameters name value told.distinct member
  change ∃ result, Parameter.apply request name value = .ok result
  unfold Parameter.apply
  split
  · obtain ⟨n, read⟩ := rel_some _ _ _ told.first value found
    exact ⟨_, (bind_ok_iff _ _ _).mpr ⟨n, read, rfl⟩⟩
  · obtain ⟨n, read⟩ := rel_some _ _ _ told.rows value found
    exact ⟨_, (bind_ok_iff _ _ _).mpr ⟨n, read, rfl⟩⟩
  · exact ⟨_, rfl⟩
  · obtain ⟨order, read⟩ := rel_some _ _ _ told.sortOrder value found
    exact ⟨_, (bind_ok_iff _ _ _).mpr ⟨order, read, rfl⟩⟩
  · obtain ⟨b, read⟩ := rel_some _ _ _ told.pagination value found
    exact ⟨_, (bind_ok_iff _ _ _).mpr ⟨b, read, rfl⟩⟩
  · obtain ⟨c, read⟩ := rel_some _ _ _ told.connective value found
    exact ⟨_, (bind_ok_iff _ _ _).mpr ⟨c, read, rfl⟩⟩
  · obtain ⟨members, read⟩ := rel_some _ _ _ told.filters value found
    exact ⟨_, (bind_ok_iff _ _ _).mpr ⟨_, read, rfl⟩⟩
  · exact ⟨_, rfl⟩

theorem map_some_getD {α : Type} (given other : Option α) :
    (given.map some).getD other = (given <|> other) := by
  cases given <;> rfl

theorem Told.run (fields : RequestFields) (parameters : List (String × String))
    (told : fields.Told parameters) (start : SelectRequest) :
    parameters.foldlM (fun request (name, value) => Parameter.apply request name value) start =
      .ok (fields.laidOver start) := by
  obtain ⟨result, applied⟩ := Parameter.run_of_each parameters (told.each fields parameters) start
  obtain ⟨first, rows, sortField, sortOrder, pagination, connective, filters⟩ := Parameter.sets_each
  have first := first.given parameters told.distinct start result applied fields.first id told.first
  have rows := rows.given parameters told.distinct start result applied fields.rows some
    (rel_imp _ _ (fun text n read => by rw [read]; rfl) _ _ told.rows)
  have sortField := sortField.given parameters told.distinct start result applied fields.sortField some
    (rel_imp _ _ (fun text field read => congrArg Except.ok read) _ _ told.sortField)
  have sortOrder := sortOrder.given parameters told.distinct start result applied fields.sortOrder id
    told.sortOrder
  have pagination := pagination.given parameters told.distinct start result applied fields.pagination id
    told.pagination
  have connective := connective.given parameters told.distinct start result applied fields.connective id
    told.connective
  have filters := filters.given parameters told.distinct start result applied fields.filters
    FilterMap.ofMembers told.filters
  rw [map_some_getD] at rows sortField
  rw [Option.map_id_fun, id] at first sortOrder pagination connective
  rw [applied, laidOver, ← first, ← rows, ← sortField, ← sortOrder, ← filters, ← pagination, ← connective]

theorem Told.parse (fields : RequestFields) (parameters : List (String × String))
    (told : fields.Told parameters) (defaults : RequestDefaults) :
    defaults.parse parameters = (defaults.pageSize fields.rows).map fun rows =>
      { fields.laidOver { SelectRequest.all with connective := defaults.connective } with rows := rows } := by
  have rows : (fields.laidOver { SelectRequest.all with connective := defaults.connective }).rows =
      fields.rows := by
    rw [laidOver]
    cases fields.rows <;> rfl
  rw [RequestDefaults.parse, told.run]
  change (defaults.pageSize (RequestFields.laidOver fields _).rows >>= _) = _
  rw [rows]
  cases defaults.pageSize fields.rows <;> rfl

end RequestFields

end EntitySchema

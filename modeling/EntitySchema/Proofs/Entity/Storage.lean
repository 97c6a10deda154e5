import EntitySchema.Entity.Definition
import EntitySchema.Proofs.Json.Whole

set_option autoImplicit false

namespace EntitySchema

open Json

variable (f : JsonNumber → Option JsonNumber)

def Limit.through : Limit → Except ShapeError Limit
  | .number x =>
    match f (.real x) with
    | some n => .ok (.number n.toBinary64)
    | none => .error .malformed
  | .date t => .ok (.date t)

def Limit.Dated : Limit → Prop
  | .number _ => True
  | .date t => Instant.ofLoose? t.zuluText = some t

instance : DecidablePred Limit.Dated
  | .number _ => isTrue trivial
  | .date t => inferInstanceAs (Decidable (Instant.ofLoose? t.zuluText = some t))

theorem Limit.read_through (l : Limit) (dated : l.Dated) :
    Limit.read (Json.through f l.toJson) = l.through f := by
  cases l with
  | number x =>
      simp only [toJson, Json.through, read, Limit.through, Reader.value, Tree.toJson?]
      cases f (.real x) <;> rfl
  | date t =>
      simp only [Dated] at dated
      simp only [toJson, Json.through, read, Limit.through, Reader.value, Tree.toJson?,
        Option.map_some, bind, Except.bind, dated]
      rfl

theorem Limit.optional_through (l : Limit) (dated : l.Dated) :
    Reader.optional Limit.read (Json.through f l.toJson) = (l.through f).map some := by
  rw [Reader.optional_some _ _ (by cases l <;> simp [Limit.toJson, Json.through]),
    l.read_through f dated]

theorem Limit.through_exact (l : Limit) :
    l.through f = .ok l ↔
      ∀ x, .number x = l → (f (.real x)).map JsonNumber.toBinary64 = some x := by
  cases l with
  | number x =>
      simp only [Limit.through, Limit.number.injEq, forall_eq]
      cases f (.real x) <;> simp
  | date t => simp [Limit.through]

theorem Operation.read_through (origin : Origin) (op : Operation) :
    Operation.read origin (Json.through f (.string op.name)) = .ok op := by
  apply Reader.choice_of_name
  cases op <;> rfl

theorem VerbMapping.read_through (origin : Origin) (mapping : VerbMapping) :
    VerbMapping.read origin (Json.through f mapping.toJson) = .ok mapping := by
  have known : Reader.Known (Verb.all.map fun verb => Reader.field verb.name) _ :=
    Reader.known_of_names _ ["DELETE", "GET", "PATCH", "POST", "PUT"]
      [("DELETE", Json.through f (.string mapping.delete.name)),
        ("GET", Json.through f (.string mapping.get.name)),
        ("PATCH", Json.through f (.string mapping.patch.name)),
        ("POST", Json.through f (.string mapping.post.name)),
        ("PUT", Json.through f (.string mapping.put.name))] (List.Sublist.refl _) (by decide) (by decide)
  have complete : ∀ f ∈ Verb.all.map fun verb => Reader.field verb.name, f.required = true →
      f.name ∈ ["DELETE", "GET", "PATCH", "POST", "PUT"] := by
    decide
  rw [toJson, read, Reader.record_through f origin _ _ _ _ _ known complete]
  simp only [List.foldlM_cons, List.foldlM_nil, Operation.read_through]
  rfl

namespace Declaration

def limits (d : Declaration) : List Limit := d.max.toList ++ d.min.toList

def through (d : Declaration) : Except ShapeError Declaration := do
  let max ← d.max.mapM (Limit.through f)
  let min ← d.min.mapM (Limit.through f)
  return { d with min := min, max := max }

def members (d : Declaration) : List (String × Json) :=
  [("key", .string d.key)] ++
    (d.max.toList.map fun l => ("max", l.toJson)) ++
    (d.min.toList.map fun l => ("min", l.toJson)) ++
    [("normalize", .bool d.normalize)] ++
    (d.normalizer.toList.map fun name => ("normalizer", .string name)) ++
    (d.operations.toList.map fun tags => ("operations", .array (tags.map .string))) ++
    [("required", .bool d.required), ("safe", .bool d.safe), ("sanitize", .bool d.sanitize),
     ("type", .string d.typeName), ("typeCheck", .bool d.strict),
     ("validate", .bool d.validate)]

theorem members_known (d : Declaration) :
    Reader.Known fields (d.members.map fun (key, json) => (key, Json.through f json)) := by
  refine Reader.known_of_names fields
    ["key", "max", "min", "normalize", "normalizer", "operations", "required", "safe", "sanitize",
      "type", "typeCheck", "validate"] _ ?_ (by decide) (by decide)
  have listed : (d.members.map Prod.fst).Sublist
      (["key"] ++ (["max"] ++ (["min"] ++ (["normalize"] ++ (["normalizer"] ++ (["operations"] ++
        ["required", "safe", "sanitize", "type", "typeCheck", "validate"])))))) := by
    simp only [members, List.map_append, List.append_assoc]
    repeat' apply List.Sublist.append
    all_goals first | exact Reader.given_names _ _ _ | exact List.Sublist.refl _
  simpa [List.map_map, Function.comp_def] using listed

theorem required_members (d : Declaration) :
    ∀ f ∈ fields, f.required = true → f.name ∈ d.members.map Prod.fst := by
  intro f member required
  have needed : f.name ∈ ["key", "type"] := by
    revert f
    decide
  rcases List.mem_cons.mp needed with key | type
  · simp [key, members]
  · simp [List.mem_singleton.mp type, members]

theorem set_max (d : Declaration) (l : Limit) (dated : l.Dated) :
    d.set "max" (Json.through f l.toJson) = (l.through f).map fun l => { d with max := some l } := by
  simp only [set, l.optional_through f dated]
  cases l.through f <;> rfl

theorem set_min (d : Declaration) (l : Limit) (dated : l.Dated) :
    d.set "min" (Json.through f l.toJson) = (l.through f).map fun l => { d with min := some l } := by
  simp only [set, l.optional_through f dated]
  cases l.through f <;> rfl

theorem set_operations (d : Declaration) (tags : List String) :
    d.set "operations" (Json.through f (.array (tags.map .string))) =
      .ok { d with operations := some tags } := by
  have given : Json.through f (.array (tags.map .string)) ≠ .null := by simp [Json.through]
  rw [set, Reader.optional_of_given _ _ tags given (Reader.strings_through f tags)]
  rfl

theorem read_through (origin : Origin) (d : Declaration) (dated : ∀ l ∈ d.limits, l.Dated) :
    read origin (Json.through f d.toJson) = d.through f := by
  have max : ∀ l ∈ d.max, l.Dated := fun l given => dated l (List.mem_append_left _ (by simpa using given))
  have min : ∀ l ∈ d.min, l.Dated := fun l given => dated l (List.mem_append_right _ (by simpa using given))
  change read origin (Json.through f (.object d.members)) = _
  rw [read, Reader.record_through f origin _ _ _ _ _ (d.members_known f) d.required_members, members]
  simp only [List.append_assoc]
  rw [List.singleton_append,
    Reader.member_then _ _ _ "key" _ { Declaration.of "" "" with key := d.key } rfl,
    Reader.given_through _ _ _ d.max "max" _ (Limit.through f) (fun r max => { r with max := max }) rfl
      fun l given => set_max f _ l (max l given),
    through]
  cases d.max.mapM (Limit.through f) with
  | error fault => rfl
  | ok max =>
      change List.foldlM _ _ _ = (d.min.mapM (Limit.through f) >>= _)
      rw [Reader.given_through _ _ _ d.min "min" _ (Limit.through f) (fun r min => { r with min := min })
        rfl fun l given => set_min f _ l (min l given)]
      refine congrArg (d.min.mapM (Limit.through f) >>= ·) (funext fun min => ?_)
      rw [List.singleton_append, Reader.member_then _ _ _ "normalize" _ _ rfl,
        Reader.given_then _ _ _ d.normalizer "normalizer" _
          (fun r name => { r with normalizer := name }) rfl fun name _ => rfl,
        Reader.given_then _ _ _ d.operations "operations" _
          (fun r tags => { r with operations := tags }) rfl fun tags _ => set_operations f _ tags]
      rfl

theorem depth_toJson (d : Declaration) : depth d.toJson ≤ 2 := by
  change membersDepth d.members + 1 ≤ 2
  apply Nat.succ_le_succ
  rw [membersDepth_le]
  have limit : ∀ l : Limit, depth l.toJson ≤ 1 := by
    intro l
    cases l <;> simp [Limit.toJson, depth]
  simp only [members, List.forall_mem_append, List.forall_mem_map, List.forall_mem_cons,
    List.not_mem_nil, false_implies, depth, itemsDepth_strings, limit, Nat.zero_le, Nat.le_refl, implies_true,
    and_true]

theorem through_exact (d : Declaration) :
    d.through f = .ok d ↔ ∀ x, .number x ∈ d.limits → (f (.real x)).map JsonNumber.toBinary64 = some x := by
  have each : d.through f = .ok d ↔ ∀ l ∈ d.limits, l.through f = .ok l := by
    rw [limits, List.forall_mem_append, ← given_same, ← given_same, through]
    simp only [bind_ok_iff, pure_ok_iff]
    constructor
    · rintro ⟨max, maxRead, min, minRead, same⟩
      obtain rfl : max = d.max := congrArg Declaration.max same
      obtain rfl : min = d.min := congrArg Declaration.min same
      exact ⟨maxRead, minRead⟩
    · exact fun ⟨maxRead, minRead⟩ => ⟨d.max, maxRead, d.min, minRead, rfl⟩
  simp only [each, Limit.through_exact]
  constructor
  · exact fun exact x member => exact _ member x rfl
  · rintro exact l member x rfl
    exact exact x member

end Declaration

namespace Definition

def limits (d : Definition) : List Limit := d.properties.flatMap Declaration.limits

def through (d : Definition) : Except ShapeError Definition := do
  let properties ← d.properties.mapM (Declaration.through f)
  return { d with properties := properties }

def members (d : Definition) : List (String × Json) :=
  [("name", .string d.name), ("properties", .array (d.properties.map Declaration.toJson))] ++
    (d.table.toList.map fun table => ("table", .string table)) ++
    [("verbs", d.verbs.toJson)]

theorem depth_toJson (d : Definition) : depth d.toJson ≤ 4 := by
  change membersDepth d.members + 1 ≤ 4
  apply Nat.succ_le_succ
  rw [membersDepth_le]
  have properties : itemsDepth (d.properties.map Declaration.toJson) ≤ 2 := by
    rw [itemsDepth_le, List.forall_mem_map]
    exact fun p _ => p.depth_toJson
  have verbs : depth d.verbs.toJson ≤ 3 := by simp [VerbMapping.toJson, depth, membersDepth]
  simp only [members, List.forall_mem_append, List.forall_mem_map, List.forall_mem_cons,
    List.not_mem_nil, false_implies, depth, Nat.zero_le, implies_true, and_true, true_and]
  exact ⟨Nat.succ_le_succ properties, verbs⟩

theorem members_known (d : Definition) :
    Reader.Known fields (d.members.map fun (key, json) => (key, Json.through f json)) := by
  refine Reader.known_of_names fields ["name", "properties", "table", "verbs"] _ ?_ (by decide)
    (by decide)
  have listed : (d.members.map Prod.fst).Sublist (["name", "properties"] ++ (["table"] ++ ["verbs"])) := by
    simp only [members, List.map_append, List.append_assoc]
    exact (List.Sublist.refl _).append ((Reader.given_names _ _ _).append (List.Sublist.refl _))
  simpa [List.map_map, Function.comp_def] using listed

theorem read_through (origin : Origin) (d : Definition) (dated : ∀ l ∈ d.limits, l.Dated) :
    read origin (Json.through f d.toJson) = d.through f := by
  have complete : ∀ f ∈ fields, f.required = true → f.name ∈ d.members.map Prod.fst := by
    intro f member required
    have needed : f.name ∈ ["name", "properties"] := by
      revert f
      decide
    exact List.mem_append_left _ needed
  have properties : Reader.list (Declaration.read origin)
      (Json.through f (.array (d.properties.map Declaration.toJson))) =
        d.properties.mapM (Declaration.through f) := by
    rw [Reader.list_through, List.mapM_map]
    apply mapM_agree
    intro p member
    exact p.read_through f origin fun l given => dated l (List.mem_flatMap.mpr ⟨p, member, given⟩)
  change read origin (Json.through f (.object d.members)) = _
  rw [read, Reader.record_through f origin _ _ _ _ _ (d.members_known f) complete, members, through]
  simp only [List.append_assoc]
  rw [List.cons_append, Reader.member_then _ _ _ "name" _ ⟨d.name, none, .standard, []⟩ rfl]
  cases read : d.properties.mapM (Declaration.through f) with
  | error fault =>
      rw [List.cons_append, List.foldlM_cons]
      simp only [properties, read]
      rfl
  | ok back =>
      rw [List.cons_append, Reader.member_then _ _ _ "properties" _ ⟨d.name, none, .standard, back⟩
          (by simp only [properties, read]; rfl),
        List.nil_append, Reader.given_then _ _ _ d.table "table" _
          (fun r table => { r with table := table }) rfl fun table _ => rfl,
        Reader.member_then _ _ _ "verbs" _ ⟨d.name, d.table, d.verbs, back⟩
          (by simp only [VerbMapping.read_through]; rfl)]
      rfl

theorem through_exact (d : Definition) :
    d.through f = .ok d ↔ ∀ x, .number x ∈ d.limits → (f (.real x)).map JsonNumber.toBinary64 = some x := by
  have each : d.through f = .ok d ↔ ∀ p ∈ d.properties, p.through f = .ok p := by
    simp only [← mapM_same, through, bind_ok_iff, pure_ok_iff]
    constructor
    · rintro ⟨properties, read, same⟩
      obtain rfl : properties = d.properties := congrArg Definition.properties same
      exact read
    · exact fun read => ⟨d.properties, read, rfl⟩
  simp only [each, Declaration.through_exact, limits, List.mem_flatMap]
  constructor
  · rintro exact x ⟨p, member, given⟩
    exact exact p member x given
  · exact fun exact p member x given => exact x ⟨p, member, given⟩

theorem readValue_toJson (d : Definition) (dated : ∀ l ∈ d.limits, l.Dated) :
    readValue read d.toJson = .ok d := by
  rw [readValue, ← through_some, read_through some .value d dated]
  exact (d.through_exact some).mpr fun x _ => rfl

theorem readText_toJson (d : Definition) (dated : ∀ l ∈ d.limits, l.Dated) :
    readText read (text d.toJson) = d.through JsonNumber.reread := by
  have fits : depth d.toJson ≤ maxDepth := Nat.le_trans d.depth_toJson (by decide)
  rw [readText, readTree_text _ fits]
  simp only [read_through JsonNumber.reread .text d dated, if_true, bind_pure]

-- As a value a definition comes back as it was, and as a text with the numbers that the texts of its
-- limits are read as: unchanged just when each is read as itself, as moderate whole numbers are.
theorem comes_back (d : Definition) (dated : ∀ l ∈ d.limits, l.Dated) :
    readValue read d.toJson = .ok d ∧
      readText read (text d.toJson) = d.through JsonNumber.reread ∧
      (readText read (text d.toJson) = .ok d ↔ ∀ x, .number x ∈ d.limits → x.reread = some x) ∧
      ((∀ x, .number x ∈ d.limits → ∃ k : Int, k.natAbs ≤ 900719925474099 ∧ x = .ofInt k) →
        readText read (text d.toJson) = .ok d) ∧
      ∀ types, (readValue read d.toJson).map (·.build types) = .ok (d.build types) ∧
        ∀ location, readText read (text d.toJson) = .ok d →
          Entity.parse types location (text d.toJson) = d.build types := by
  have value := d.readValue_toJson dated
  have written := d.readText_toJson dated
  have exact : readText read (text d.toJson) = .ok d ↔ ∀ x, .number x ∈ d.limits → x.reread = some x := by
    rw [written]
    exact d.through_exact JsonNumber.reread
  refine ⟨value, written, exact, fun whole => exact.mpr ?_, fun types => ⟨by rw [value]; rfl, ?_⟩⟩
  · intro x given
    obtain ⟨k, small, rfl⟩ := whole x given
    exact Binary64.reread_whole k small
  · intro location same
    rw [Entity.parse, same]

def shipment : Definition where
  name := "Shipment"
  table := some "shop.shipments"
  verbs := .patchAsMerge
  properties :=
    [{ Declaration.of "parcels" "integer" with
        max := some (.number (.ofInt 200)), operations := some ["select", "insert"] },
     { Declaration.of "sent" "date" with
        min := some (.date ⟨1704067200, 0⟩), validate := false, normalizer := some "trim" }]

theorem shipment_comes_back :
    (∀ l ∈ shipment.limits, l.Dated) ∧ readValue read shipment.toJson = .ok shipment ∧
      readText read (text shipment.toJson) = .ok shipment := by
  have dated : ∀ l ∈ shipment.limits, l.Dated := by
    decide +kernel
  have back := comes_back shipment dated
  refine ⟨dated, back.1, back.2.2.2.1 ?_⟩
  intro x given
  have only : x = .ofInt 200 := by
    simpa [limits, shipment, Declaration.limits, Declaration.of] using given
  exact ⟨200, by decide, only⟩

def ordersUpTo (greatest : Int) : Definition where
  name := "Order"
  table := none
  verbs := .standard
  properties := [{ Declaration.of "id" "integer" with max := some (.number (.ofInt greatest)) }]

def orderText : String :=
  "\x7b\"name\":\"Order\",\"properties\":" ++
    "[\x7b\"key\":\"id\",\"type\":\"integer\",\"max\":9007199254740991\x7d]\x7d"

theorem greatest_order_rounded :
    (readText read orderText).toOption = some (ordersUpTo 9007199254740991) ∧
      (readText read (text (ordersUpTo 9007199254740991).toJson)).toOption =
        some (ordersUpTo 9007199254740990) ∧
      ordersUpTo 9007199254740990 ≠ ordersUpTo 9007199254740991 := by
  refine ⟨by decide +kernel, ?_, by decide +kernel⟩
  rw [readText_toJson (ordersUpTo 9007199254740991) (by decide +kernel)]
  decide +kernel

end Definition

end EntitySchema

import EntitySchema.Proofs.Filter.Leaves

set_option autoImplicit false

namespace EntitySchema

inductive Asked : Json → Test → Prop where
  | null : Asked .null (.isNull false)
  | bool (b : Bool) : Asked (.bool b) (.compare .boolean .eq (.bool b))
  | number (n : JsonNumber) : Asked (.number n) (.compare .numeric .eq (.number n))
  | element (n : JsonNumber) : Asked (.number n) (.compare .plain .eq (.string n.text))
  | text (s : String) : Asked (.string s) (.compare .lower .eq (.string (LetterCase.lower s)))
  | numbers (items values : List Json)
      (converted : items.mapM Interpretation.numberValue = .ok values) :
      Asked (.array items) (.anyOf .numeric values)
  | texts (items values : List Json)
      (converted : items.mapM Interpretation.textValue = .ok values) :
      Asked (.array items) (.anyOf .plain values)

namespace Interpretation

theorem anyOf_list (cast : Cast) (convert : Conversion) (items : List Json) (test : Test)
    (accepted : anyOf cast convert (.array items) = .ok test) :
    ∃ values, items.mapM convert = .ok values ∧ test = .anyOf cast values := by
  cases items with
  | nil => cases accepted
  | cons first rest =>
      simp only [anyOf, bind_ok_iff, pure_ok_iff] at accepted
      obtain ⟨values, converted, same⟩ := accepted
      exact ⟨values, converted, same.symm⟩

theorem leaf_asked (value : Json) (test : Test) (scalar : ∀ members, value ≠ .object members)
    (accepted : leaf .equals value = .ok test) : Asked value test := by
  cases value with
  | null =>
      cases accepted
      exact .null
  | bool b =>
      cases accepted
      exact .bool b
  | number n =>
      cases accepted
      exact .number n
  | string s =>
      cases accepted
      exact .text s
  | array items =>
      simp only [leaf] at accepted
      split at accepted
      · obtain ⟨values, converted, same⟩ := anyOf_list .numeric numberValue items test accepted
        exact same ▸ .numbers items values converted
      · obtain ⟨values, converted, same⟩ := anyOf_list .plain textValue items test accepted
        exact same ▸ .texts items values converted
  | object members => exact absurd rfl (scalar members)

mutual
theorem node_asked (depth : Nat) (value : Json) (result : Node)
    (accepted : node .equals depth value = .ok result) :
    List.Forall₂ Asked value.leaves result.tests := by
  cases value with
  | object members =>
      obtain ⟨_, _, inner, innerAccepted, same⟩ :=
        node_object .equals depth members result accepted
      subst same
      exact nodes_asked (depth + 1) members inner innerAccepted
  | _ =>
      obtain ⟨test, testAccepted, same⟩ := node_leaf .equals depth _ result (by simp) accepted
      subst same
      exact .cons (leaf_asked _ test (by simp) testAccepted) .nil

theorem nodes_asked (depth : Nat) (members : List (String × Json)) (results : List (String × Node))
    (accepted : nodes .equals depth members = .ok results) :
    List.Forall₂ Asked (Json.memberLeaves members) (Node.memberTests results) := by
  cases members with
  | nil =>
      cases accepted
      exact .nil
  | cons member rest =>
      obtain ⟨key, value⟩ := member
      simp only [nodes, bind_ok_iff, pure_ok_iff] at accepted
      obtain ⟨first, firstAccepted, others, othersAccepted, same⟩ := accepted
      subst same
      exact List.rel_append (node_asked depth value first firstAccepted)
        (nodes_asked depth rest others othersAccepted)
end

theorem elementNode_asked (value : Json) (result : Node)
    (accepted : elementNode .equals value = .ok result) :
    List.Forall₂ Asked value.leaves result.tests := by
  cases value with
  | number n =>
      cases accepted
      exact .cons (.element n) .nil
  | _ => exact node_asked 1 _ result accepted

theorem memberTests_eq_flatMap (members : List (String × Node)) :
    Node.memberTests members = members.flatMap fun member => member.2.tests := by
  induction members with
  | nil => rfl
  | cons member rest ih => rw [Node.memberTests, ih, List.flatMap_cons]

theorem tuple_asked (names : List String) (values : List Json) (result : List (String × Node))
    (fits : values.length ≤ names.length) (accepted : tuple .equals names values = .ok result) :
    List.Forall₂ Asked (values.flatMap Json.leaves) (Node.memberTests result) := by
  have steps := (mapM_ok_iff _ _ _).mp accepted
  have given : values.flatMap Json.leaves = (names.zip values).flatMap fun pair => pair.2.leaves := by
    conv_lhs => rw [← List.map_snd_zip fits, List.flatMap_map]
  rw [given, memberTests_eq_flatMap]
  refine List.rel_flatMap steps ?_
  intro pair member step
  obtain ⟨inner, innerAccepted, same⟩ := (map_ok_iff _ _ _).mp step
  subst same
  exact elementNode_asked pair.2 inner innerAccepted

theorem flatten_blocks {α : Type} (width count : Nat) (items : List α) :
    ((List.range count).map fun i => (items.drop (i * width)).take width).flatten =
      items.take (count * width) := by
  induction count with
  | zero => simp
  | succ count ih =>
      rw [List.range_succ, List.map_append, List.flatten_append, ih, Nat.succ_mul, List.take_add]
      simp

theorem chunks_flatten {α : Type} (width : Nat) (items : List α) (wide : 0 < width) :
    (chunks width items).flatten = items := by
  rw [chunks, flatten_blocks]
  apply List.take_of_length_le
  have covered := Nat.lt_div_mul_add (a := items.length + width - 1) wide
  omega

theorem chunks_fit {α : Type} (width : Nat) (items block : List α)
    (member : block ∈ chunks width items) : block.length ≤ width := by
  obtain ⟨i, _, same⟩ := List.mem_map.mp member
  subst same
  exact List.length_take_le _ _

theorem chunks_length {α : Type} (width : Nat) (items : List α) (wide : 0 < width)
    (even : width ∣ items.length) : (chunks width items).length = items.length / width := by
  obtain ⟨count, total⟩ := even
  have last : width - 1 < width := by omega
  rw [chunks, List.length_map, List.length_range, total, Nat.add_sub_assoc wide,
    Nat.mul_add_div wide, Nat.div_eq_of_lt last, Nat.mul_div_cancel_left count wide, Nat.add_zero]

theorem chunks_block {α : Type} (width : Nat) (items block : List α) (wide : 0 < width)
    (even : width ∣ items.length) (t : Nat) (found : (chunks width items)[t]? = some block) :
    block.length = width ∧ ∀ i < width, block[i]? = items[t * width + i]? := by
  obtain ⟨below, rfl⟩ := List.getElem?_eq_some_iff.mp found
  rw [chunks_length width items wide even] at below
  have inside : (t + 1) * width ≤ items.length := (Nat.le_div_iff_mul_le wide).mp below
  rw [Nat.succ_mul] at inside
  simp only [chunks, List.getElem_map, List.getElem_range]
  constructor
  · rw [List.length_take, List.length_drop]
    omega
  · intro i narrow
    rw [List.getElem?_take_of_lt narrow, List.getElem?_drop]

theorem tuples_asked (names : List String) (rows : List (List Json))
    (tuples : List (List (String × Node))) (fit : ∀ row ∈ rows, row.length ≤ names.length)
    (accepted : rows.mapM (tuple .equals names) = .ok tuples) :
    List.Forall₂ Asked (rows.flatten.flatMap Json.leaves) (tuples.flatMap Node.memberTests) := by
  have steps := (mapM_ok_iff _ _ _).mp accepted
  clear accepted
  induction steps with
  | nil => exact .nil
  | @cons row first rest others step _ ih =>
      rw [List.flatten_cons, List.flatMap_append]
      exact List.rel_append (tuple_asked names row first (fit row (by simp)) step)
        (ih fun later member => fit later (by simp [member]))

theorem elements_asked (subProps : Option (List String)) (value : Json) (result : Condition)
    (accepted : elements .equals subProps value = .ok result) :
    List.Forall₂ Asked ((flatValues (subProps.getD []).length value).flatMap Json.leaves)
      result.tests := by
  obtain ⟨names, tuples, named, given, _, _, _, steps, same⟩ :=
    elements_accepted .equals subProps value result accepted
  subst named same
  have wide : 0 < names.length := List.length_pos_of_ne_nil given
  have asked := tuples_asked names _ tuples (chunks_fit names.length _) steps
  rwa [chunks_flatten names.length _ wide] at asked

theorem document_asked (members : List (String × Json)) (result : Condition)
    (accepted : document .equals members = .ok result) :
    List.Forall₂ Asked (Json.object members).leaves result.tests := by
  obtain ⟨inner, innerAccepted, same⟩ := document_accepted .equals members result accepted
  subst same
  exact nodes_asked 1 members inner innerAccepted

end Interpretation

end EntitySchema

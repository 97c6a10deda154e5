import EntitySchema.Filter.Interpretation
import EntitySchema.Proofs.Filter.Emission
import EntitySchema.Proofs.Outcome

set_option autoImplicit false

namespace EntitySchema.Interpretation

def flatValues (width : Nat) : Json → List Json
  | .array items => items
  | value => List.replicate width value

def tuple (mode : MatchMode) (names : List String) (values : List Json) :
    Except FilterAnomaly (List (String × Node)) :=
  (names.zip values).mapM fun (name, value) => (elementNode mode value).map (name, ·)

theorem elements_some (mode : MatchMode) (names : List String) (value : Json) (given : names ≠ []) :
    elements mode (some names) value =
      if mode.comparator = .range then .error (.unsupportedMode mode)
      else if (flatValues names.length value).isEmpty ∨
          (flatValues names.length value).length % names.length ≠ 0 then
        .error (.badValue .perSubProp)
      else ((chunks names.length (flatValues names.length value)).mapM (tuple mode names)).map
        .someElement := by
  cases names with
  | nil => exact absurd rfl given
  | cons name names =>
      cases value <;>
        (by_cases ranged : mode.comparator = .range
         · simp only [elements, ranged]
           rfl
         · simp only [elements, ranged, if_false]
           rfl)

theorem elements_accepted (mode : MatchMode) (subProps : Option (List String)) (value : Json)
    (result : Condition) (accepted : elements mode subProps value = .ok result) :
    ∃ names tuples, subProps = some names ∧ names ≠ [] ∧ mode.comparator ≠ .range ∧
      flatValues names.length value ≠ [] ∧ (flatValues names.length value).length % names.length = 0 ∧
      (chunks names.length (flatValues names.length value)).mapM (tuple mode names) = .ok tuples ∧
      result = .someElement tuples := by
  cases subProps with
  | none => cases accepted
  | some names =>
      by_cases given : names = []
      · subst given
        cases accepted
      · rw [elements_some mode names value given] at accepted
        split at accepted
        · cases accepted
        · rename_i unranged
          split at accepted
          · cases accepted
          · rename_i fits
            simp only [not_or, Bool.not_eq_true, List.isEmpty_eq_false_iff, not_not] at fits
            obtain ⟨tuples, tuplesAccepted, same⟩ := (map_ok_iff _ _ _).mp accepted
            exact ⟨names, tuples, rfl, given, unranged, fits.1, fits.2, tuplesAccepted, same.symm⟩

def ofValue (category : FilterCategory) (mode : MatchMode) : Json → Except FilterAnomaly Condition
  | .null => (null mode).map .column
  | value => ofCategory category mode value

def isAggregate (key : String) : Bool := hasEnding jsonAggSuffix key || hasEnding arrayAggSuffix key

theorem arrayAgg_of_aggregate (key : String) (aggregate : isAggregate key = true)
    (ending : hasEnding jsonAggSuffix key = false) : hasEnding arrayAggSuffix key = true := by
  simpa [isAggregate, ending] using aggregate

theorem onProperty_plain (modes : MatchModes) (p : Property) (filter : Filter)
    (plain : isAggregate p.key = false) :
    onProperty modes p filter = (do
      let requested ← requestedMode filter
      match p.type.category with
      | none => .error (.notFilterable p.typeName)
      | some category =>
        let mode ← modeFor modes category requested filter.value
        ofValue category mode filter.value) := by
  obtain ⟨ending, arrayEnding⟩ := Bool.or_eq_false_iff.mp plain
  simp only [onProperty, ending, arrayEnding, Bool.false_eq_true, if_false]
  cases p.type.category with
  | none => rfl
  | some category => cases filter.value <;> rfl

theorem onProperty_document (modes : MatchModes) (p : Property) (filter : Filter)
    (requested : Option MatchMode) (mode : MatchMode) (members : List (String × Json))
    (plain : isAggregate p.key = false) (textual : p.type.category = some .string)
    (object : filter.value = .object members) (named : requestedMode filter = .ok requested)
    (legal : modeFor modes .string requested (.object members) = .ok mode) :
    onProperty modes p filter = document mode members := by
  rw [onProperty_plain modes p filter plain, named, textual, object]
  exact congrArg (· >>= fun mode => ofValue .string mode (.object members)) legal

theorem condition_readable (e : Entity) (modes : MatchModes) (field : String) (p : Property)
    (filter : Filter) (found : e.property? field = some p) (readable : p.appliesTo .select = true) :
    condition e modes field filter = onProperty modes p filter := by
  simp [condition, found, readable]

inductive Accepted (modes : MatchModes) (p : Property) (filter : Filter) (result : Condition) :
    Prop where
  | documents (requested : Option MatchMode) (mode : MatchMode)
      (ending : hasEnding jsonAggSuffix p.key = true)
      (named : requestedMode filter = .ok requested)
      (legal : modeFor modes .string requested filter.value = .ok mode)
      (accepted : elements mode filter.subProps filter.value = .ok result)
  | integers (ending : hasEnding jsonAggSuffix p.key = false)
      (arrayEnding : hasEnding arrayAggSuffix p.key = true)
      (accepted : holdsAny true filter.value = .ok result)
  | column (requested : Option MatchMode) (category : FilterCategory) (mode : MatchMode)
      (ending : hasEnding jsonAggSuffix p.key = false)
      (arrayEnding : hasEnding arrayAggSuffix p.key = false)
      (known : p.type.category = some category)
      (named : requestedMode filter = .ok requested)
      (legal : modeFor modes category requested filter.value = .ok mode)
      (accepted : ofValue category mode filter.value = .ok result)

theorem onProperty_accepted (modes : MatchModes) (p : Property) (filter : Filter)
    (result : Condition) (accepted : onProperty modes p filter = .ok result) :
    Accepted modes p filter result := by
  cases aggregate : isAggregate p.key with
  | true =>
      obtain ⟨requested, named, accepted⟩ := (bind_ok_iff _ _ _).mp accepted
      cases ending : hasEnding jsonAggSuffix p.key with
      | true =>
          rw [if_pos ending] at accepted
          obtain ⟨mode, legal, accepted⟩ := (bind_ok_iff _ _ _).mp accepted
          exact .documents requested mode ending named legal accepted
      | false =>
          have arrayEnding := arrayAgg_of_aggregate p.key aggregate ending
          rw [if_neg (by simp [ending]), if_pos arrayEnding] at accepted
          obtain ⟨_, _, accepted⟩ := (bind_ok_iff _ _ _).mp accepted
          exact .integers ending arrayEnding accepted
  | false =>
      obtain ⟨ending, arrayEnding⟩ := Bool.or_eq_false_iff.mp aggregate
      rw [onProperty_plain modes p filter aggregate] at accepted
      obtain ⟨requested, named, accepted⟩ := (bind_ok_iff _ _ _).mp accepted
      cases known : p.type.category with
      | none =>
          rw [known] at accepted
          cases accepted
      | some category =>
          rw [known] at accepted
          obtain ⟨mode, legal, accepted⟩ := (bind_ok_iff _ _ _).mp accepted
          exact .column requested category mode ending arrayEnding known named legal accepted

theorem condition_accepted (e : Entity) (modes : MatchModes) (field : String) (filter : Filter)
    (result : Condition) (accepted : condition e modes field filter = .ok result) :
    ∃ p, e.property? field = some p ∧ p.appliesTo .select = true ∧
      Accepted modes p filter result := by
  unfold condition at accepted
  cases found : e.property? field with
  | none =>
      rw [found] at accepted
      cases accepted
  | some p =>
      rw [found] at accepted
      cases readable : p.appliesTo .select with
      | false => simp [readable] at accepted
      | true =>
          simp only [readable, if_true] at accepted
          exact ⟨p, rfl, readable, onProperty_accepted modes p filter result accepted⟩

theorem node_members (mode : MatchMode) (depth : Nat) (member : String × Json)
    (rest : List (String × Json)) :
    node mode depth (.object (member :: rest)) =
      if maxObjectDepth ≤ depth then .error (.badValue .shallowObject)
      else (nodes mode (depth + 1) (member :: rest)).map .object := by
  rw [node]
  simp

theorem node_scalar (mode : MatchMode) (depth : Nat) (value : Json)
    (scalar : ∀ members, value ≠ .object members) :
    node mode depth value = (leaf mode value).map .leaf := by
  cases value with
  | object members => exact absurd rfl (scalar members)
  | _ => rw [node] <;> simp

theorem node_object (mode : MatchMode) (depth : Nat) (members : List (String × Json))
    (result : Node) (accepted : node mode depth (.object members) = .ok result) :
    depth < maxObjectDepth ∧ members ≠ [] ∧
      ∃ inner, nodes mode (depth + 1) members = .ok inner ∧ result = .object inner := by
  cases members with
  | nil =>
      rw [node] at accepted
      split at accepted <;> cases accepted
  | cons member rest =>
      rw [node_members] at accepted
      split at accepted
      · cases accepted
      · rename_i shallow
        obtain ⟨inner, innerAccepted, same⟩ := (map_ok_iff _ _ _).mp accepted
        exact ⟨by omega, by simp, inner, innerAccepted, same.symm⟩

theorem node_leaf (mode : MatchMode) (depth : Nat) (value : Json) (result : Node)
    (scalar : ∀ members, value ≠ .object members) (accepted : node mode depth value = .ok result) :
    ∃ test, leaf mode value = .ok test ∧ result = .leaf test := by
  rw [node_scalar mode depth value scalar] at accepted
  obtain ⟨test, testAccepted, same⟩ := (map_ok_iff _ _ _).mp accepted
  exact ⟨test, testAccepted, same.symm⟩

mutual
theorem node_full (mode : MatchMode) (depth : Nat) (value : Json) (result : Node)
    (accepted : node mode depth value = .ok result) : result.Full := by
  cases value with
  | object members =>
      obtain ⟨_, given, inner, innerAccepted, same⟩ := node_object mode depth members result accepted
      subst same
      have full := nodes_full mode (depth + 1) members inner innerAccepted
      refine ⟨?_, full.2⟩
      intro empty
      simp [empty, given] at full
  | _ =>
      obtain ⟨test, _, same⟩ := node_leaf mode depth _ result (by simp) accepted
      subst same
      trivial

theorem nodes_full (mode : MatchMode) (depth : Nat) (members : List (String × Json))
    (results : List (String × Node)) (accepted : nodes mode depth members = .ok results) :
    results.map Prod.fst = members.map Prod.fst ∧ Node.AllFull results := by
  cases members with
  | nil =>
      cases accepted
      exact ⟨rfl, trivial⟩
  | cons member rest =>
      obtain ⟨key, value⟩ := member
      simp only [nodes, bind_ok_iff, pure_ok_iff] at accepted
      obtain ⟨first, firstAccepted, others, othersAccepted, same⟩ := accepted
      subst same
      have tail := nodes_full mode depth rest others othersAccepted
      exact ⟨by simp [tail.1], node_full mode depth value first firstAccepted, tail.2⟩
end

theorem elementNode_full (mode : MatchMode) (value : Json) (result : Node)
    (accepted : elementNode mode value = .ok result) : result.Full := by
  cases value with
  | number n =>
      simp only [elementNode] at accepted
      split at accepted <;> cases accepted <;> trivial
  | _ => exact node_full mode 1 _ result accepted

theorem tuple_full (mode : MatchMode) (names : List String) (values : List Json)
    (result : List (String × Node)) (accepted : tuple mode names values = .ok result) :
    Node.AllFull result := by
  apply all_full
  intro member inResult
  obtain ⟨_, _, step⟩ := mapM_ok_mem _ _ result accepted member inResult
  obtain ⟨first, firstAccepted, same⟩ := (map_ok_iff _ _ _).mp step
  subst same
  exact elementNode_full mode _ first firstAccepted

theorem elements_full (mode : MatchMode) (subProps : Option (List String)) (value : Json)
    (result : Condition) (accepted : elements mode subProps value = .ok result) : result.Full := by
  obtain ⟨names, tuples, _, _, _, _, _, steps, same⟩ :=
    elements_accepted mode subProps value result accepted
  subst same
  intro one member
  obtain ⟨values, _, step⟩ := mapM_ok_mem _ _ tuples steps one member
  exact tuple_full mode names values one step

theorem holdsAny_accepted (integersOnly : Bool) (value : Json) (result : Condition)
    (accepted : holdsAny integersOnly value = .ok result) :
    result = .holdsAny ((flatValues 1 value).filter (if integersOnly then isInteger else isScalar)) := by
  unfold holdsAny at accepted
  cases value <;> simp only at accepted <;> split at accepted <;> cases accepted <;> rfl

theorem place_accepted (mode : MatchMode) (value : Json) (result : Condition)
    (accepted : place mode value = .ok result) :
    (mode.comparator = .envelope ∧ ∃ minLng minLat maxLng maxLat,
      result = .within minLng minLat maxLng maxLat) ∨
    (mode.comparator = .radius ∧ ∃ lng lat radius, result = .near lng lat radius) := by
  simp only [place] at accepted
  split at accepted
  · rename_i compared
    split at accepted
    · cases accepted
    · simp only [bind_ok_iff, pure_ok_iff] at accepted
      obtain ⟨minLng, _, minLat, _, maxLng, _, maxLat, _, same⟩ := accepted
      exact .inl ⟨compared, minLng, minLat, maxLng, maxLat, same.symm⟩
  · rename_i compared
    simp only [bind_ok_iff, pure_ok_iff] at accepted
    obtain ⟨lng, _, lat, _, radius, _, same⟩ := accepted
    exact .inr ⟨compared, lng, lat, radius, same.symm⟩
  · cases accepted

theorem document_accepted (mode : MatchMode) (members : List (String × Json)) (result : Condition)
    (accepted : document mode members = .ok result) :
    ∃ inner, nodes mode 1 members = .ok inner ∧ result = .document inner := by
  cases members with
  | nil => cases accepted
  | cons member rest =>
      obtain ⟨inner, innerAccepted, same⟩ := (map_ok_iff _ _ _).mp accepted
      exact ⟨inner, innerAccepted, same.symm⟩

theorem column_full (outcome : Except FilterAnomaly Test) (result : Condition)
    (accepted : outcome.map .column = .ok result) : result.Full := by
  obtain ⟨test, _, same⟩ := (map_ok_iff _ _ _).mp accepted
  subst same
  trivial

theorem ofCategory_full (category : FilterCategory) (mode : MatchMode) (value : Json)
    (result : Condition) (accepted : ofCategory category mode value = .ok result) :
    result.Full := by
  cases category with
  | geometry =>
      rcases place_accepted mode value result accepted with ⟨_, _, _, _, _, same⟩ | ⟨_, _, _, _, same⟩
      · exact same ▸ trivial
      · exact same ▸ trivial
  | array => exact holdsAny_accepted false value result accepted ▸ trivial
  | string =>
      cases value with
      | object members =>
          obtain ⟨inner, innerAccepted, same⟩ := document_accepted mode members result accepted
          subst same
          exact (nodes_full mode 1 members inner innerAccepted).2
      | _ => exact column_full _ result accepted
  | number => exact column_full _ result accepted
  | date => exact column_full _ result accepted
  | boolean => exact column_full _ result accepted

theorem ofValue_full (category : FilterCategory) (mode : MatchMode) (value : Json)
    (result : Condition) (accepted : ofValue category mode value = .ok result) : result.Full := by
  cases value with
  | null => exact column_full _ result accepted
  | _ => exact ofCategory_full category mode _ result accepted

theorem condition_full (e : Entity) (modes : MatchModes) (field : String) (filter : Filter)
    (result : Condition) (accepted : condition e modes field filter = .ok result) : result.Full := by
  obtain ⟨p, _, _, how⟩ := condition_accepted e modes field filter result accepted
  cases how with
  | documents requested mode ending named legal accepted =>
      exact elements_full mode filter.subProps filter.value result accepted
  | integers ending arrayEnding accepted =>
      exact holdsAny_accepted true filter.value result accepted ▸ trivial
  | column requested category mode ending arrayEnding known named legal accepted =>
      exact ofValue_full category mode filter.value result accepted

end EntitySchema.Interpretation

import EntitySchema.Filter.Predicate
import EntitySchema.Proofs.Entity.WellFormed
import EntitySchema.Proofs.Filter.Acceptance

set_option autoImplicit false

namespace EntitySchema

inductive Outline where
  | null
  | bool
  | whole
  | real
  | string
  | array (items : List Outline)
  | object (values : List Outline)

def JsonNumber.outline : JsonNumber → Outline
  | .whole _ _ => .whole
  | .real _ => .real

namespace Json

mutual
def outline : Json → Outline
  | .null => .null
  | .bool _ => .bool
  | .number n => n.outline
  | .string _ => .string
  | .array items => .array (outlineItems items)
  | .object members => .object (outlineMembers members)

def outlineItems : List Json → List Outline
  | [] => []
  | item :: rest => item.outline :: outlineItems rest

def outlineMembers : List (String × Json) → List Outline
  | [] => []
  | (_, value) :: rest => value.outline :: outlineMembers rest
end

theorem outlineItems_eq_map (items : List Json) : outlineItems items = items.map outline := by
  induction items with
  | nil => rfl
  | cons item rest ih => rw [outlineItems, ih, List.map_cons]

inductive SameKind : Json → Json → Prop where
  | null : SameKind .null .null
  | bool (a b : Bool) : SameKind (.bool a) (.bool b)
  | number (a b : JsonNumber) : SameKind (.number a) (.number b)
  | string (a b : String) : SameKind (.string a) (.string b)
  | array (a b : List Json) (alike : a.map outline = b.map outline) : SameKind (.array a) (.array b)
  | object (a b : List (String × Json)) (alike : outlineMembers a = outlineMembers b) :
      SameKind (.object a) (.object b)

theorem sameKind_of_outline (v w : Json) (alike : v.outline = w.outline) : SameKind v w := by
  cases v with
  | number n =>
      cases w with
      | number m => exact .number n m
      | _ => cases n <;> simp [outline, JsonNumber.outline] at alike
  | _ =>
      cases w with
      | number m => cases m <;> simp [outline, JsonNumber.outline] at alike
      | _ => simp_all [outline, outlineItems_eq_map, SameKind.null, SameKind.bool,
          SameKind.string, SameKind.array, SameKind.object]

end Json

-- Blanking keeps what SQL is written from: tests, casts, and how many keys and values there are.
def Test.blank : Test → Test
  | .isNull negated => .isNull negated
  | .compare cast comparison _ => .compare cast comparison .null
  | .between cast _ _ => .between cast .null .null
  | .anyOf cast _ => .anyOf cast []

mutual
def Node.blank : Node → Node
  | .leaf test => .leaf test.blank
  | .object members => .object (Node.blankMembers members)

def Node.blankMembers : List (String × Node) → List (String × Node)
  | [] => []
  | (_, node) :: rest => ("", node.blank) :: Node.blankMembers rest
end

theorem blankMembers_eq_map (members : List (String × Node)) :
    Node.blankMembers members = members.map fun member => ("", member.2.blank) := by
  induction members with
  | nil => rfl
  | cons member rest ih => rw [Node.blankMembers, ih, List.map_cons]

def Condition.blank : Condition → Condition
  | .column test => .column test.blank
  | .document members => .document (Node.blankMembers members)
  | .someElement tuples => .someElement (tuples.map Node.blankMembers)
  | .holdsAny values => .holdsAny (values.map fun _ => .null)
  | .within _ _ _ _ => .within .null .null .null .null
  | .near _ _ _ => .near .null .null .null

structure Emitted.Alike (a b : Emitted) : Prop where
  sql : a.sql = b.sql
  count : a.values.length = b.values.length

structure PartsAlike (a b : List Emitted) : Prop where
  sql : a.map Emitted.sql = b.map Emitted.sql
  count : (boundValues a).length = (boundValues b).length

theorem parts_alike_cons (a b : Emitted) (left right : List Emitted) (first : a.Alike b)
    (rest : PartsAlike left right) : PartsAlike (a :: left) (b :: right) := by
  constructor
  · simp [first.sql, rest.sql]
  · have counts := rest.count
    simp only [boundValues] at counts ⊢
    simp [first.count, counts]

theorem test_blank_alike (test : Test) (expr : Sql.Fragment) (bound : Nat) :
    (test.blank.emit expr bound).Alike (test.emit expr bound) := by
  cases test <;> exact ⟨rfl, rfl⟩

mutual
theorem node_blank_alike (node : Node) (base : Sql.Fragment) (bound : Nat) (key other : String) :
    (node.blank.emit base bound other).Alike (node.emit base bound key) := by
  cases node with
  | leaf test =>
      have inner := test_blank_alike test (base ++ [.text "->>", .place (bound + 1)]) (bound + 1)
      exact ⟨inner.sql, congrArg (· + 1) inner.count⟩
  | object members =>
      have parts := members_blank_alike members (base ++ [.text "->", .place (bound + 1)]) (bound + 1)
      exact ⟨congrArg (joined "AND") parts.sql, congrArg (· + 1) parts.count⟩

theorem members_blank_alike (members : List (String × Node)) (base : Sql.Fragment) (bound : Nat) :
    PartsAlike (Node.emitMembers base bound (Node.blankMembers members))
      (Node.emitMembers base bound members) := by
  cases members with
  | nil => exact ⟨rfl, rfl⟩
  | cons member rest =>
      obtain ⟨key, node⟩ := member
      have first := node_blank_alike node base bound key ""
      have others := members_blank_alike rest base
        (bound + (node.blank.emit base bound "").values.length)
      simp only [Node.blankMembers, Node.emitMembers]
      rw [← first.count]
      exact parts_alike_cons _ _ _ _ first others
end

theorem tuples_blank_alike (tuples : List (List (String × Node))) (bound : Nat) :
    PartsAlike (Condition.emitTuples bound (tuples.map Node.blankMembers))
      (Condition.emitTuples bound tuples) := by
  induction tuples generalizing bound with
  | nil => exact ⟨rfl, rfl⟩
  | cons tuple rest ih =>
      have parts := members_blank_alike tuple [.text "p"] bound
      have count := parts.count
      simp only [boundValues] at count
      simp only [List.map_cons, Condition.emitTuples]
      rw [count]
      exact parts_alike_cons _ _ _ _ ⟨by rw [parts.sql], count⟩ (ih _)

theorem condition_blank_alike (condition : Condition) (column : Sql.Fragment) (bound : Nat) :
    (condition.blank.emit column bound).sql = (condition.emit column bound).sql := by
  cases condition with
  | column test => exact (test_blank_alike test column bound).sql
  | document members => exact congrArg (joined "AND") (members_blank_alike members column bound).sql
  | someElement tuples =>
      simp only [Condition.blank, Condition.emit, (tuples_blank_alike tuples bound).sql]
  | holdsAny values =>
      simp only [Condition.blank, Condition.emit]
      exact congrArg (joined "OR") (List.ext_getElem (by simp) (by simp))
  | within minLng minLat maxLng maxLat => rfl
  | near lng lat radius => rfl

namespace Interpretation

theorem anyOf_alike (cast : Cast) (convert : Conversion) (v w : Json) (a b : Test)
    (accepted : anyOf cast convert v = .ok a) (accepted' : anyOf cast convert w = .ok b) :
    a.blank = b.blank := by
  have blanked : ∀ value test, anyOf cast convert value = .ok test → test.blank = .anyOf cast [] := by
    intro value test accepted
    unfold anyOf at accepted
    split at accepted
    · cases accepted
    · obtain ⟨_, _, same⟩ := (bind_ok_iff _ _ _).mp accepted
      cases same
      rfl
    · obtain ⟨_, _, same⟩ := (bind_ok_iff _ _ _).mp accepted
      cases same
      rfl
  rw [blanked v a accepted, blanked w b accepted']

theorem text_alike (mode : MatchMode) (v w : Json) (a b : Test) (accepted : text mode v = .ok a)
    (accepted' : text mode w = .ok b) : a.blank = b.blank := by
  unfold text at accepted accepted'
  cases compared : mode.comparator <;>
    simp only [compared, bind_ok_iff, pure_ok_iff] at accepted accepted'
  case any => exact anyOf_alike _ _ v w a b accepted accepted'
  case eq =>
    obtain ⟨_, _, same⟩ := accepted
    obtain ⟨_, _, same'⟩ := accepted'
    rw [← same, ← same']
    rfl
  case ne =>
    obtain ⟨_, _, same⟩ := accepted
    obtain ⟨_, _, same'⟩ := accepted'
    rw [← same, ← same']
    rfl
  case like =>
    obtain ⟨_, _, same⟩ := accepted
    obtain ⟨_, _, same'⟩ := accepted'
    rw [← same, ← same']
    rfl
  all_goals cases accepted

theorem side_alike (convert : Conversion) (v w : Json) (a b : Option Json)
    (alike : v.outline = w.outline) (accepted : side convert v = .ok a)
    (accepted' : side convert w = .ok b) : a.isSome = b.isSome := by
  have given : ∀ value bound, side convert value = .ok bound →
      bound.isSome = !value.isNull := by
    intro value bound accepted
    unfold side at accepted
    split at accepted
    · cases accepted
      rfl
    · rename_i present
      obtain ⟨_, _, same⟩ := (map_ok_iff _ _ _).mp accepted
      cases value <;> simp_all [Json.isNull, ← same]
  have sameNull : v.isNull = w.isNull := by
    cases Json.sameKind_of_outline v w alike <;> rfl
  rw [given v a accepted, given w b accepted', sameNull]

def rangeBlank : Bool → Bool → Test
  | true, true => .between .plain .null .null
  | true, false => .compare .plain .gte .null
  | false, _ => .compare .plain .lte .null

theorem range_accepted (convert : Conversion) (value : Json) (result : Test)
    (accepted : range convert value = .ok result) :
    ∃ low high from' to', value = .array [low, high] ∧ side convert low = .ok from' ∧
      side convert high = .ok to' ∧ result.blank = rangeBlank from'.isSome to'.isSome := by
  unfold range at accepted
  split at accepted
  · rename_i low high
    simp only [bind_ok_iff] at accepted
    obtain ⟨from', fromOk, to', toOk, accepted⟩ := accepted
    refine ⟨low, high, from', to', rfl, fromOk, toOk, ?_⟩
    cases from' <;> cases to' <;> cases accepted <;> rfl
  · cases accepted

theorem range_alike (convert : Conversion) (v w : Json) (a b : Test)
    (alike : v.outline = w.outline) (accepted : range convert v = .ok a)
    (accepted' : range convert w = .ok b) : a.blank = b.blank := by
  obtain ⟨low, high, from', to', same, fromOk, toOk, blanked⟩ := range_accepted convert v a accepted
  obtain ⟨low', high', from'', to'', same', fromOk', toOk', blanked'⟩ :=
    range_accepted convert w b accepted'
  simp only [same, same', Json.outline, Json.outlineItems, Outline.array.injEq, List.cons.injEq,
    and_true] at alike
  rw [blanked, blanked', side_alike convert low low' from' from'' alike.1 fromOk fromOk',
    side_alike convert high high' to' to'' alike.2 toOk toOk']

theorem ordered_alike (convert : Conversion) (mode : MatchMode) (v w : Json) (a b : Test)
    (alike : v.outline = w.outline) (accepted : ordered convert mode v = .ok a)
    (accepted' : ordered convert mode w = .ok b) : a.blank = b.blank := by
  have bounded : ∀ value test comparison,
      (do let bound ← convert value; pure (Test.compare .plain comparison bound)) = .ok test →
        test.blank = .compare .plain comparison .null := by
    intro value test comparison accepted
    simp only [bind_ok_iff, pure_ok_iff] at accepted
    obtain ⟨_, _, same⟩ := accepted
    exact same ▸ rfl
  unfold ordered at accepted accepted'
  cases compared : mode.comparator <;> simp only [compared, comparison?] at accepted accepted'
  case range => exact range_alike convert v w a b alike accepted accepted'
  case any => exact anyOf_alike _ convert v w a b accepted accepted'
  case like => cases accepted
  case envelope =>
    obtain ⟨_, _, failed⟩ := (bind_ok_iff _ _ _).mp accepted
    cases failed
  case radius =>
    obtain ⟨_, _, failed⟩ := (bind_ok_iff _ _ _).mp accepted
    cases failed
  all_goals rw [bounded v a _ accepted, bounded w b _ accepted']

theorem boolean_alike (mode : MatchMode) (v w : Json) (a b : Test)
    (accepted : boolean mode v = .ok a) (accepted' : boolean mode w = .ok b) :
    a.blank = b.blank := by
  unfold boolean at accepted accepted'
  cases compared : mode.comparator <;>
    simp only [compared, bind_ok_iff, pure_ok_iff] at accepted accepted'
  case eq =>
    obtain ⟨_, _, same⟩ := accepted
    obtain ⟨_, _, same'⟩ := accepted'
    rw [← same, ← same']
    rfl
  case ne =>
    obtain ⟨_, _, same⟩ := accepted
    obtain ⟨_, _, same'⟩ := accepted'
    rw [← same, ← same']
    rfl
  all_goals cases accepted

theorem answers_alike (asks : Json → Bool)
    (known : ∀ v w : Json, v.outline = w.outline → asks v = asks w) (a b : List Json)
    (alike : a.map Json.outline = b.map Json.outline) :
    a.all asks = b.all asks ∧ (a.filter asks).length = (b.filter asks).length := by
  induction a generalizing b with
  | nil =>
      have none : b = [] := by simpa using alike.symm
      subst none
      exact ⟨rfl, rfl⟩
  | cons v rest ih =>
      cases b with
      | nil => simp at alike
      | cons w others =>
          simp only [List.map_cons, List.cons.injEq] at alike
          have here := known v w alike.1
          have tail := ih others alike.2
          constructor
          · simp [here, tail.1]
          · cases answer : asks w <;> simp [here, answer, tail.2]

theorem isNumber_known (v w : Json) (alike : v.outline = w.outline) : v.isNumber = w.isNumber := by
  cases Json.sameKind_of_outline v w alike <;> rfl

theorem isScalar_known (v w : Json) (alike : v.outline = w.outline) : isScalar v = isScalar w := by
  cases Json.sameKind_of_outline v w alike <;> rfl

theorem isInteger_known (v w : Json) (alike : v.outline = w.outline) :
    isInteger v = isInteger w := by
  cases Json.sameKind_of_outline v w alike with
  | number n m => cases n <;> cases m <;> simp_all [Json.outline, JsonNumber.outline, isInteger]
  | _ => rfl

theorem all_numbers_alike (a b : List Json) (alike : a.map Json.outline = b.map Json.outline) :
    (!a.isEmpty && a.all Json.isNumber) = (!b.isEmpty && b.all Json.isNumber) := by
  have sameLength := congrArg List.length alike
  simp only [List.length_map] at sameLength
  have sameEmpty : a.isEmpty = b.isEmpty := by
    cases a <;> cases b <;> simp_all
  rw [(answers_alike Json.isNumber isNumber_known a b alike).1, sameEmpty]

theorem leaf_alike (mode : MatchMode) (v w : Json) (a b : Test) (alike : v.outline = w.outline)
    (accepted : leaf mode v = .ok a) (accepted' : leaf mode w = .ok b) : a.blank = b.blank := by
  cases Json.sameKind_of_outline v w alike with
  | null =>
      cases accepted.symm.trans accepted'
      rfl
  | bool =>
      cases accepted
      cases accepted'
      rfl
  | number =>
      cases accepted
      cases accepted'
      rfl
  | string s t => exact text_alike (leafTextMode mode) _ _ a b accepted accepted'
  | array items others same =>
      have cast := all_numbers_alike items others same
      simp only [leaf, cast] at accepted accepted'
      split at accepted
      · rename_i numeric
        rw [if_pos numeric] at accepted'
        exact anyOf_alike _ _ _ _ a b accepted accepted'
      · rename_i mixed
        rw [if_neg mixed] at accepted'
        exact anyOf_alike _ _ _ _ a b accepted accepted'
  | object => cases accepted

mutual
theorem node_alike (mode : MatchMode) (depth : Nat) (v w : Json) (a b : Node)
    (alike : v.outline = w.outline) (accepted : node mode depth v = .ok a)
    (accepted' : node mode depth w = .ok b) : a.blank = b.blank := by
  cases v with
  | object members =>
      cases w with
      | object others =>
          obtain ⟨_, _, inner, innerOk, same⟩ := node_object mode depth members a accepted
          obtain ⟨_, _, inner', innerOk', same'⟩ := node_object mode depth others b accepted'
          simp only [Json.outline, Outline.object.injEq] at alike
          have blanked := nodes_alike mode (depth + 1) members others inner inner' alike innerOk innerOk'
          rw [same, same', Node.blank, Node.blank, blanked]
      | _ => cases Json.sameKind_of_outline _ _ alike
  | _ =>
      have scalar : ∀ others, w ≠ .object others := by
        intro others same
        subst same
        cases Json.sameKind_of_outline _ _ alike
      obtain ⟨test, testOk, same⟩ := node_leaf mode depth _ a (by simp) accepted
      obtain ⟨test', testOk', same'⟩ := node_leaf mode depth _ b scalar accepted'
      rw [same, same', Node.blank, Node.blank, leaf_alike mode _ w test test' alike testOk testOk']

theorem nodes_alike (mode : MatchMode) (depth : Nat) (members others : List (String × Json))
    (a b : List (String × Node))
    (alike : Json.outlineMembers members = Json.outlineMembers others)
    (accepted : nodes mode depth members = .ok a) (accepted' : nodes mode depth others = .ok b) :
    Node.blankMembers a = Node.blankMembers b := by
  cases members with
  | nil =>
      cases others with
      | nil => cases accepted.symm.trans accepted'; rfl
      | cons other rest => simp [Json.outlineMembers] at alike
  | cons member rest =>
      cases others with
      | nil => simp [Json.outlineMembers] at alike
      | cons other rest' =>
          simp only [Json.outlineMembers, List.cons.injEq] at alike
          simp only [nodes, bind_ok_iff, pure_ok_iff] at accepted accepted'
          obtain ⟨first, firstOk, more, moreOk, same⟩ := accepted
          obtain ⟨first', firstOk', more', moreOk', same'⟩ := accepted'
          rw [← same, ← same', Node.blankMembers, Node.blankMembers,
            node_alike mode depth member.2 other.2 first first' alike.1 firstOk firstOk',
            nodes_alike mode depth rest rest' more more' alike.2 moreOk moreOk']
end

theorem flatValues_alike (width : Nat) (v w : Json) (alike : v.outline = w.outline) :
    (flatValues width v).map Json.outline = (flatValues width w).map Json.outline := by
  cases Json.sameKind_of_outline v w alike with
  | array a b same => exact same
  | _ => simp [flatValues, alike]

theorem holdsAny_alike (integersOnly : Bool) (v w : Json) (a b : Condition)
    (alike : v.outline = w.outline) (accepted : holdsAny integersOnly v = .ok a)
    (accepted' : holdsAny integersOnly w = .ok b) : a.blank = b.blank := by
  have known : ∀ v w : Json, v.outline = w.outline →
      (if integersOnly then isInteger else isScalar) v =
        (if integersOnly then isInteger else isScalar) w := by
    intro v w alike
    cases integersOnly with
    | true => exact isInteger_known v w alike
    | false => exact isScalar_known v w alike
  have counts := (answers_alike _ known _ _ (flatValues_alike 1 v w alike)).2
  rw [holdsAny_accepted integersOnly v a accepted, holdsAny_accepted integersOnly w b accepted']
  simp only [Condition.blank, List.map_const', counts]

theorem place_alike (mode : MatchMode) (v w : Json) (a b : Condition)
    (accepted : place mode v = .ok a) (accepted' : place mode w = .ok b) : a.blank = b.blank := by
  rcases place_accepted mode v a accepted with ⟨compared, _, _, _, _, same⟩ | ⟨compared, _, _, _, same⟩ <;>
    rcases place_accepted mode w b accepted' with
      ⟨compared', _, _, _, _, same'⟩ | ⟨compared', _, _, _, same'⟩
  · rw [same, same']
    rfl
  · simp [compared] at compared'
  · simp [compared] at compared'
  · rw [same, same']
    rfl

theorem column_alike (outcome outcome' : Except FilterAnomaly Test) (a b : Condition)
    (alike : ∀ test test', outcome = .ok test → outcome' = .ok test' → test.blank = test'.blank)
    (accepted : outcome.map .column = .ok a) (accepted' : outcome'.map .column = .ok b) :
    a.blank = b.blank := by
  obtain ⟨test, testOk, same⟩ := (map_ok_iff _ _ _).mp accepted
  obtain ⟨test', testOk', same'⟩ := (map_ok_iff _ _ _).mp accepted'
  rw [← same, ← same', Condition.blank, Condition.blank, alike test test' testOk testOk']

theorem elementNode_alike (mode : MatchMode) (v w : Json) (a b : Node)
    (alike : v.outline = w.outline) (accepted : elementNode mode v = .ok a)
    (accepted' : elementNode mode w = .ok b) : a.blank = b.blank := by
  cases Json.sameKind_of_outline v w alike with
  | number n m =>
      simp only [elementNode] at accepted accepted'
      cases compared : mode.comparator <;> simp only [compared] at accepted accepted' <;>
        cases accepted
      all_goals
        cases accepted'
        rfl
  | _ => exact node_alike mode 1 _ _ a b alike accepted accepted'

theorem zip_outlines (names others : List String) (v w : List Json)
    (sameLength : names.length = others.length) (alike : v.map Json.outline = w.map Json.outline) :
    (names.zip v).map (fun pair => pair.2.outline) = (others.zip w).map (fun pair => pair.2.outline) := by
  have second : ∀ (names : List String) (values : List Json),
      (names.zip values).map (fun pair => pair.2.outline) =
        (values.map Json.outline).take names.length := by
    intro names values
    induction names generalizing values with
    | nil => simp
    | cons name rest ih =>
        cases values with
        | nil => simp
        | cons value more => simp [ih more]
  rw [second names v, second others w, sameLength, alike]

theorem tuple_alike (mode : MatchMode) (names others : List String) (v w : List Json)
    (a b : List (String × Node)) (sameLength : names.length = others.length)
    (alike : v.map Json.outline = w.map Json.outline) (accepted : tuple mode names v = .ok a)
    (accepted' : tuple mode others w = .ok b) : Node.blankMembers a = Node.blankMembers b := by
  have nodes : a.map (fun member => member.2.blank) = b.map (fun member => member.2.blank) := by
    refine mapM_alike _ _ (fun pair => pair.2.outline) _ ?_ _ _ a b
      (zip_outlines names others v w sameLength alike) accepted accepted'
    intro pair other member member' same step step'
    obtain ⟨node, nodeOk, built⟩ := (map_ok_iff _ _ _).mp step
    obtain ⟨node', nodeOk', built'⟩ := (map_ok_iff _ _ _).mp step'
    rw [← built, ← built']
    exact elementNode_alike mode _ _ node node' same nodeOk nodeOk'
  rw [blankMembers_eq_map, blankMembers_eq_map]
  simpa [Function.comp_def] using congrArg (List.map fun node => ("", node)) nodes

theorem chunks_alike (width : Nat) (v w : List Json) (alike : v.map Json.outline = w.map Json.outline) :
    (chunks width v).map (List.map Json.outline) = (chunks width w).map (List.map Json.outline) := by
  have outlined : ∀ values : List Json, (chunks width values).map (List.map Json.outline) =
      chunks width (values.map Json.outline) := by
    intro values
    simp [chunks, List.map_take, List.map_drop]
  rw [outlined v, outlined w, alike]

theorem elements_alike (mode : MatchMode) (names others : Option (List String)) (v w : Json)
    (a b : Condition) (sameLength : names.map List.length = others.map List.length)
    (alike : v.outline = w.outline) (accepted : elements mode names v = .ok a)
    (accepted' : elements mode others w = .ok b) : a.blank = b.blank := by
  obtain ⟨given, tuples, same, _, _, _, _, steps, built⟩ := elements_accepted mode names v a accepted
  obtain ⟨given', tuples', same', _, _, _, _, steps', built'⟩ :=
    elements_accepted mode others w b accepted'
  subst same same'
  have lengths : given.length = given'.length := by simpa using sameLength
  rw [← lengths] at steps'
  have chunked := chunks_alike given.length _ _ (flatValues_alike given.length v w alike)
  have blanked := mapM_alike _ _ _ Node.blankMembers
    (fun values values' tuple tuple' same step step' =>
      tuple_alike mode given given' values values' tuple tuple' lengths same step step')
    _ _ tuples tuples' chunked steps steps'
  rw [built, built', Condition.blank, Condition.blank, blanked]

theorem ofCategory_alike (category : FilterCategory) (mode : MatchMode) (v w : Json)
    (a b : Condition) (alike : v.outline = w.outline)
    (accepted : ofCategory category mode v = .ok a)
    (accepted' : ofCategory category mode w = .ok b) : a.blank = b.blank := by
  cases category with
  | geometry => exact place_alike mode v w a b accepted accepted'
  | array => exact holdsAny_alike false v w a b alike accepted accepted'
  | number =>
      exact column_alike _ _ a b (fun test test' => ordered_alike _ mode v w test test' alike)
        accepted accepted'
  | date =>
      exact column_alike _ _ a b (fun test test' => ordered_alike _ mode v w test test' alike)
        accepted accepted'
  | boolean =>
      exact column_alike _ _ a b (fun test test' => boolean_alike mode v w test test')
        accepted accepted'
  | string =>
      cases Json.sameKind_of_outline v w alike with
      | object members others same =>
          obtain ⟨inner, innerOk, built⟩ := document_accepted mode members a accepted
          obtain ⟨inner', innerOk', built'⟩ := document_accepted mode others b accepted'
          have blanked := nodes_alike mode 1 members others inner inner' same innerOk innerOk'
          rw [built, built', Condition.blank, Condition.blank, blanked]
      | _ =>
          exact column_alike _ _ a b (fun test test' => text_alike mode _ _ test test')
            accepted accepted'

theorem ofValue_alike (category : FilterCategory) (mode : MatchMode) (v w : Json) (a b : Condition)
    (alike : v.outline = w.outline) (accepted : ofValue category mode v = .ok a)
    (accepted' : ofValue category mode w = .ok b) : a.blank = b.blank := by
  have kinds := Json.sameKind_of_outline v w alike
  cases kinds with
  | null => cases accepted.symm.trans accepted'; rfl
  | _ => exact ofCategory_alike category mode _ _ a b alike accepted accepted'

-- The value has a say in the mode only of a place, and there by its bounds only.
theorem modeFor_alike (modes : MatchModes) (category : FilterCategory)
    (requested : Option MatchMode) (v w : Json) (a b : MatchMode)
    (sameBounds : category = .geometry → requested = none →
      (v.get? "bounds").isSome = (w.get? "bounds").isSome)
    (legal : modeFor modes category requested v = .ok a)
    (legal' : modeFor modes category requested w = .ok b) : a = b := by
  cases requested with
  | some mode => cases legal.symm.trans legal'; rfl
  | none =>
      cases legal
      cases legal'
      cases category with
      | geometry => simp only [MatchMode.default, sameBounds rfl rfl]
      | _ => rfl

theorem condition_alike (e : Entity) (modes : MatchModes) (field : String) (f g : Filter)
    (a b : Condition) (sameMode : f.matchMode = g.matchMode)
    (sameNames : f.subProps.map List.length = g.subProps.map List.length)
    (alike : f.value.outline = g.value.outline)
    (sameBounds : ∀ p, e.property? field = some p → p.type.category = some .geometry →
      f.matchMode = none → (f.value.get? "bounds").isSome = (g.value.get? "bounds").isSome)
    (accepted : condition e modes field f = .ok a) (accepted' : condition e modes field g = .ok b) :
    a.blank = b.blank := by
  have sameRequest : requestedMode g = requestedMode f := by
    rw [requestedMode, requestedMode, sameMode]
  obtain ⟨p, found, _, how⟩ := condition_accepted e modes field f a accepted
  obtain ⟨q, found', _, how'⟩ := condition_accepted e modes field g b accepted'
  cases found.symm.trans found'
  cases how with
  | documents requested mode ending named legal built =>
      cases how' with
      | documents requested' mode' ending' named' legal' built' =>
          cases named.symm.trans (sameRequest.symm.trans named')
          cases modeFor_alike modes .string requested _ _ mode mode' (by simp) legal legal'
          exact elements_alike mode _ _ _ _ a b sameNames alike built built'
      | _ => simp_all
  | integers ending arrayEnding built =>
      cases how' with
      | integers ending' arrayEnding' built' => exact holdsAny_alike true _ _ a b alike built built'
      | _ => simp_all
  | column requested category mode ending arrayEnding known named legal built =>
      cases how' with
      | column requested' category' mode' ending' arrayEnding' known' named' legal' built' =>
          cases known.symm.trans known'
          cases named.symm.trans (sameRequest.symm.trans named')
          have bounds : category = .geometry → requested = none →
              (f.value.get? "bounds").isSome = (g.value.get? "bounds").isSome := by
            intro isPlace unnamed
            refine sameBounds p found (isPlace ▸ known) ?_
            cases given : f.matchMode with
            | none => rfl
            | some name =>
                simp only [requestedMode, given, unnamed] at named
                split at named <;> cases named
          cases modeFor_alike modes category requested _ _ mode mode' bounds legal legal'
          exact ofValue_alike category mode _ _ a b alike built built'
      | _ => simp_all

end Interpretation

-- Nothing that a client writes into a value shows in the SQL that the value is compiled to.
theorem fragment_of_outline (e : Entity) (modes : MatchModes) (field : String) (f g : Filter)
    (bound : Nat) (a b : Emitted) (sameMode : f.matchMode = g.matchMode)
    (sameNames : f.subProps.map List.length = g.subProps.map List.length)
    (sameShape : f.value.outline = g.value.outline)
    (sameBounds : ∀ p, e.property? field = some p → p.type.category = some .geometry →
      f.matchMode = none → (f.value.get? "bounds").isSome = (g.value.get? "bounds").isSome)
    (compiled : f.compile e modes field bound = .ok a)
    (compiled' : g.compile e modes field bound = .ok b) : a.sql.render = b.sql.render := by
  obtain ⟨condition, accepted, emitted⟩ := (map_ok_iff _ _ _).mp compiled
  obtain ⟨condition', accepted', emitted'⟩ := (map_ok_iff _ _ _).mp compiled'
  have blanked := Interpretation.condition_alike e modes field f g condition condition' sameMode
    sameNames sameShape sameBounds accepted accepted'
  rw [← emitted, ← emitted', ← condition_blank_alike condition, blanked,
    condition_blank_alike condition']

def plainMeta : Filter :=
  ⟨.object [("color", .string "red"), ("size", .object [("w", .ofCount 1)])], some "equals", none, none⟩

def hostileMeta : Filter :=
  ⟨.object [("a\" = $9 --", .string "' OR ''='"), ("$1", .object [("'", .ofCount 2)])], some "equals",
    none, none⟩

theorem hostileMeta_fragment :
    ∃ a b, plainMeta.compile orders .standard "meta" 3 = .ok a ∧
      hostileMeta.compile orders .standard "meta" 3 = .ok b ∧ a.sql.render = b.sql.render := by
  have plain := ok_getD (plainMeta.compile orders .standard "meta" 3) ⟨[], []⟩ (by decide +kernel)
  have hostile := ok_getD (hostileMeta.compile orders .standard "meta" 3) ⟨[], []⟩ (by decide +kernel)
  refine ⟨_, _, plain, hostile, ?_⟩
  exact fragment_of_outline orders .standard "meta" plainMeta hostileMeta 3 _ _ rfl rfl rfl
    (by intro p found isPlace unnamed; cases unnamed) plain hostile

end EntitySchema

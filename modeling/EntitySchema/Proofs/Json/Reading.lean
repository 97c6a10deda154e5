import EntitySchema.Json.Shape
import EntitySchema.Proofs.Json.Ordered
import EntitySchema.Proofs.Outcome
import EntitySchema.Proofs.Text.Blank

set_option autoImplicit false

namespace EntitySchema.Json

theorem ofItems_eq_map (items : List Json) : Tree.ofItems items = items.map Tree.ofJson := by
  induction items with
  | nil => rfl
  | cons item rest ih => rw [Tree.ofItems, ih, List.map_cons]

theorem ofMembers_eq_map (members : List (String × Json)) :
    Tree.ofMembers members = members.map fun (key, value) => (some key, Tree.ofJson value) := by
  induction members with
  | nil => rfl
  | cons member rest ih => rw [Tree.ofMembers, ih, List.map_cons]

theorem each_member (parts : List (Option String × Tree)) (values : List (String × Json))
    (whole : Tree.memberValues? parts = some values) :
    List.Forall₂ (fun part value => part.1 = some value.1 ∧ part.2.toJson? = some value.2) parts values := by
  induction parts generalizing values with
  | nil => cases whole; exact .nil
  | cons part rest ih =>
      obtain ⟨key, tree⟩ := part
      obtain ⟨name, named, whole⟩ := Option.bind_eq_some_iff.mp whole
      obtain ⟨value, first, whole⟩ := Option.bind_eq_some_iff.mp whole
      obtain ⟨others, tail, same⟩ := Option.map_eq_some_iff.mp whole
      subst same
      exact .cons ⟨named, first⟩ (ih others tail)

theorem object_of_whole (tree : Tree) (members : List (String × Json))
    (whole : tree.toJson? = some (.object members)) :
    ∃ parts values, tree = .object parts true ∧ Tree.memberValues? parts = some values ∧
      Members.ofList values = members := by
  cases tree with
  | object parts closed =>
      cases closed with
      | false => cases whole
      | true =>
          obtain ⟨values, wholeParts, same⟩ := Option.map_eq_some_iff.mp whole
          exact ⟨parts, values, rfl, wholeParts, by simpa using same⟩
  | array items closed => cases closed <;> simp [Tree.toJson?] at whole
  | _ => simp [Tree.toJson?] at whole

theorem firstToken_blank (c : Char) (rest : List Char) (blank : Blank.isBlank c = true) :
    firstToken (c :: rest) = (.fault, []) := by
  have digit : c.isDigit = false := by
    by_contra digit
    rw [Blank.digit_bare c (by simpa using digit)] at blank
    cases blank
  unfold firstToken
  split
  case h_13 =>
    have body : numberBody false (c :: rest) = none := by simp [numberBody, digitRun, digit]
    rw [body]
  all_goals
    rename_i same
    try cases same
    try exact absurd blank (by decide)

theorem read_blank (text : String) (blank : Blank.isBlankText text = true) : read? text = none := by
  have none : ∀ tree, readTree text ≠ (tree, true) := by
    intro tree complete
    rw [readTree, tokens] at complete
    split at complete
    · cases complete
    · rename_i c rest left
      have member : c ∈ text.toList := (List.dropWhile_suffix isSpace).subset (left ▸ List.mem_cons_self)
      rw [firstToken_blank c rest (List.all_eq_true.mp blank c member)] at complete
      simp only at complete
      split at complete <;> cases complete
  unfold read?
  split
  · rename_i tree complete
    exact absurd complete (none tree)
  · rfl

namespace Reader

variable {α β ρ : Type}

theorem value_of_whole (tree : Tree) (json : Json) (whole : tree.toJson? = some json) :
    value tree = .ok json := by
  rw [value, whole]

theorem value_ofJson (json : Json) (ordered : json.Ordered) : value (.ofJson json) = .ok json :=
  value_of_whole _ json (Tree.toJson_ofJson json ordered)

theorem count_ofCount (n : UInt64) : count (.ofJson (.ofCount n)) = .ok n := by
  have positive : (0 : Int) ≤ n.toNat := Int.natCast_nonneg _
  simp [ofCount, Tree.ofJson, count]

theorem choice_of_name (origin : Origin) (choices : List (String × α)) (name : String) (a : α)
    (listed : choices.lookup name = some a) :
    choice origin choices (.ofJson (.string name)) = .ok a := by
  rw [Tree.ofJson, choice, named, listed]

theorem optional_some (read : Reader α) (tree : Tree) (given : tree ≠ .null) :
    optional read tree = (read tree).map some := by
  cases tree with
  | null => exact absurd rfl given
  | _ => rfl

theorem optional_of_given (read : Reader α) (tree : Tree) (a : α) (given : tree ≠ .null)
    (accepted : read tree = .ok a) : optional read tree = .ok (some a) := by
  rw [optional_some read tree given, accepted]
  rfl

theorem list_of_each (read : Reader α) (items : List Json) (values : List α)
    (each : List.Forall₂ (fun item a => read (.ofJson item) = .ok a) items values) :
    list read (.ofJson (.array items)) = .ok values := by
  have steps : (items.map Tree.ofJson).mapM read = .ok values :=
    (mapM_ok_iff read _ values).mpr (List.forall₂_map_left_iff.mpr each)
  rw [Tree.ofJson, list, ofItems_eq_map, steps]
  rfl

theorem strings_of_strings (names : List String) :
    list string (.ofJson (.array (names.map .string))) = .ok names := by
  apply list_of_each
  rw [List.forall₂_map_left_iff, List.forall₂_same]
  intro name member
  rfl

structure Known (fields : List Field) (members : List (String × Tree)) : Prop where
  named : ∀ member ∈ members, ∃ f, fields.find? (Field.answersTo member.1) = some f ∧ f.name = member.1
  distinct : (members.map Prod.fst).Nodup

theorem known_of_names (fields : List Field) (names : List String) (members : List (String × Tree))
    (listed : (members.map Prod.fst).Sublist names) (distinct : names.Nodup)
    (each : ∀ name ∈ names, ∃ f, fields.find? (Field.answersTo name) = some f ∧ f.name = name) :
    Known fields members := by
  refine ⟨?_, listed.nodup distinct⟩
  intro member present
  exact each member.1 (listed.subset (List.mem_map_of_mem present))

theorem setMembers_known (fields : List Field) (set : ρ → String → Tree → Except ShapeError ρ)
    (members : List (String × Tree)) (seen : List String) (start : ρ)
    (known : Known fields members) (fresh : ∀ member ∈ members, member.1 ∉ seen) :
    setMembers fields set (members.map fun (key, tree) => (some key, tree)) seen start =
      (members.foldlM (fun record (key, tree) => set record key tree) start).map
        fun record => ((members.map Prod.fst).reverse ++ seen, record) := by
  induction members generalizing seen start with
  | nil => rfl
  | cons member rest ih =>
      obtain ⟨key, tree⟩ := member
      obtain ⟨f, found, same⟩ := known.named (key, tree) List.mem_cons_self
      have unseen : seen.contains key = false := by simpa using fresh (key, tree) List.mem_cons_self
      have distinct := known.distinct
      rw [List.map_cons, List.nodup_cons] at distinct
      simp only [List.map_cons, setMembers, found, same, unseen, List.foldlM_cons, List.reverse_cons,
        List.append_assoc]
      cases set start key tree with
      | error fault => rfl
      | ok record =>
          refine ih (key :: seen) record ⟨?_, distinct.2⟩ ?_
          · intro member later
            exact known.named member (List.mem_cons_of_mem _ later)
          · intro member later
            rw [List.mem_cons, not_or]
            refine ⟨?_, fresh member (List.mem_cons_of_mem _ later)⟩
            intro repeated
            exact distinct.1 (List.mem_map.mpr ⟨member, later, repeated⟩)

theorem record_of_known (origin : Origin) (name : String) (fields : List Field) (start : ρ)
    (set : ρ → String → Tree → Except ShapeError ρ) (members : List (String × Tree))
    (known : Known fields members)
    (complete : ∀ f ∈ fields, f.required = true → f.name ∈ members.map Prod.fst) :
    record origin name fields start set
        (.object (members.map fun (key, tree) => (some key, tree)) true) =
      members.foldlM (fun record (key, tree) => set record key tree) start := by
  have nothing : (fields.find? fun f =>
      f.required && !((members.map Prod.fst).reverse ++ []).contains f.name) = none := by
    apply List.find?_eq_none.mpr
    intro f member
    cases required : f.required with
    | false => simp
    | true => simpa using complete f member required
  rw [record, setMembers_known fields set members [] start known (by simp)]
  cases members.foldlM (fun record (key, tree) => set record key tree) start with
  | error fault => rfl
  | ok record =>
      simp only [bind, Except.bind, Except.map, nothing]
      rfl

theorem record_of_members (origin : Origin) (name : String) (fields : List Field) (start : ρ)
    (set : ρ → String → Tree → Except ShapeError ρ) (members : List (String × Json))
    (optional : ∀ f ∈ fields, f.required = false)
    (known : Known fields (members.map fun (key, json) => (key, .ofJson json))) :
    record origin name fields start set (.ofJson (.object members)) =
      members.foldlM (fun record (key, json) => set record key (.ofJson json)) start := by
  have read := record_of_known origin name fields start set _ known fun f member required => by
    rw [optional f member] at required
    cases required
  rw [List.map_map, List.foldlM_map] at read
  rw [Tree.ofJson, ofMembers_eq_map]
  exact read

theorem given_names (given : Option α) (name : String) (write : α → Json) :
    ((given.toList.map fun a => (name, write a)).map Prod.fst).Sublist [name] := by
  cases given with
  | none => exact List.nil_sublist _
  | some a => exact List.Sublist.refl _

theorem member_then {ε : Type} (step : ρ → String × Json → Except ε ρ) (start : ρ)
    (rest : List (String × Json)) (name : String) (json : Json) (result : ρ)
    (set : step start (name, json) = .ok result) :
    ((name, json) :: rest).foldlM step start = rest.foldlM step result := by
  rw [List.foldlM_cons, set]
  rfl

theorem given_through {ε : Type} (step : ρ → String × Json → Except ε ρ) (start : ρ)
    (rest : List (String × Json)) (given : Option α) (name : String) (write : α → Json)
    (read : α → Except ε α) (put : ρ → Option α → ρ) (left : put start none = start)
    (each : ∀ a ∈ given, step start (name, write a) = (read a).map fun b => put start (some b)) :
    ((given.toList.map fun a => (name, write a)) ++ rest).foldlM step start =
      (given.mapM read) >>= fun given => rest.foldlM step (put start given) := by
  cases given with
  | none =>
      rw [Option.mapM_none, pure_bind, left]
      rfl
  | some a =>
      rw [Option.toList_some, List.map_singleton, List.singleton_append, List.foldlM_cons, each a rfl,
        Option.mapM_some]
      cases read a <;> rfl

theorem given_then {ε : Type} (step : ρ → String × Json → Except ε ρ) (start : ρ)
    (rest : List (String × Json)) (given : Option α) (name : String) (write : α → Json)
    (put : ρ → Option α → ρ) (left : put start none = start)
    (each : ∀ a ∈ given, step start (name, write a) = .ok (put start (some a))) :
    ((given.toList.map fun a => (name, write a)) ++ rest).foldlM step start =
      rest.foldlM step (put start given) := by
  rw [given_through step start rest given name write .ok put left each]
  cases given <;> rfl

theorem entries_of_whole (read : Reader α) (tree : Tree) (members : List (String × Json))
    (f : Json → α) (whole : tree.toJson? = some (.object members))
    (each : ∀ tree json, tree.toJson? = some json → read tree = .ok (f json)) :
    entries read tree = .ok (members.map (Prod.map id f)) := by
  obtain ⟨parts, values, rfl, wholeParts, rfl⟩ := object_of_whole tree members whole
  refine (bind_ok_iff _ _ _).mpr ⟨values.map (Prod.map id f), ?_, ?_⟩
  · rw [mapM_ok_iff, List.forall₂_map_right_iff]
    refine (each_member parts values wholeParts).imp ?_
    rintro ⟨_, part⟩ ⟨name, json⟩ ⟨rfl, wholePart⟩
    simp only [each part json wholePart]
    rfl
  · exact congrArg Except.ok (Members.ofList_map f values).symm

end Reader

end EntitySchema.Json

import EntitySchema.Json.Tree
import EntitySchema.Proofs.Json.Members

set_option autoImplicit false

namespace EntitySchema

namespace Json

mutual
def Ordered : Json → Prop
  | .array items => ItemsOrdered items
  | .object members => Members.Sorted members ∧ MembersOrdered members
  | _ => True

def ItemsOrdered : List Json → Prop
  | [] => True
  | item :: rest => Ordered item ∧ ItemsOrdered rest

def MembersOrdered : List (String × Json) → Prop
  | [] => True
  | (_, value) :: rest => Ordered value ∧ MembersOrdered rest
end

theorem itemsOrdered_iff (items : List Json) : ItemsOrdered items ↔ ∀ item ∈ items, Ordered item := by
  induction items with
  | nil => simp [ItemsOrdered]
  | cons item rest ih => simp [ItemsOrdered, ih]

theorem itemsOrdered_strings (names : List String) : ItemsOrdered (names.map .string) := by
  apply (itemsOrdered_iff _).mpr
  intro item member
  obtain ⟨name, _, rfl⟩ := List.mem_map.mp member
  trivial

theorem membersOrdered_iff (members : List (String × Json)) :
    MembersOrdered members ↔ ∀ entry ∈ members, Ordered entry.2 := by
  induction members with
  | nil => simp [MembersOrdered]
  | cons entry rest ih => simp [MembersOrdered, ih]

namespace Tree

mutual
theorem toJson_ofJson (value : Json) (ordered : Ordered value) :
    toJson? (ofJson value) = some value := by
  cases value with
  | null => rfl
  | bool b => rfl
  | number n => rfl
  | string s => rfl
  | array items =>
      have whole := itemValues_ofItems items ordered
      simp [ofJson, toJson?, whole]
  | object members =>
      have whole := memberValues_ofMembers members ordered.2
      have kept := Members.ofList_of_sorted members ordered.1
      simp [ofJson, toJson?, whole, kept]

theorem itemValues_ofItems (items : List Json) (ordered : ItemsOrdered items) :
    itemValues? (ofItems items) = some items := by
  cases items with
  | nil => rfl
  | cons item rest =>
      have first := toJson_ofJson item ordered.1
      have others := itemValues_ofItems rest ordered.2
      simp [ofItems, itemValues?, first, others]

theorem memberValues_ofMembers (members : List (String × Json)) (ordered : MembersOrdered members) :
    memberValues? (ofMembers members) = some members := by
  cases members with
  | nil => rfl
  | cons entry rest =>
      obtain ⟨key, value⟩ := entry
      have first := toJson_ofJson value ordered.1
      have others := memberValues_ofMembers rest ordered.2
      simp [ofMembers, memberValues?, first, others]
end

mutual
theorem ordered_of_toJson (tree : Tree) (value : Json) (whole : toJson? tree = some value) :
    Ordered value := by
  cases tree with
  | null => cases whole; trivial
  | bool b => cases whole; trivial
  | number n =>
      obtain ⟨_, _, same⟩ := Option.map_eq_some_iff.mp whole
      subst same
      trivial
  | string s =>
      obtain ⟨_, _, same⟩ := Option.map_eq_some_iff.mp whole
      subst same
      trivial
  | array items closed =>
      cases closed with
      | false => cases whole
      | true =>
          obtain ⟨values, wholeItems, same⟩ := Option.map_eq_some_iff.mp whole
          subst same
          exact itemsOrdered_of_values items values wholeItems
  | object members closed =>
      cases closed with
      | false => cases whole
      | true =>
          obtain ⟨entries, wholeMembers, same⟩ := Option.map_eq_some_iff.mp whole
          subst same
          have each := (membersOrdered_iff entries).mp (membersOrdered_of_values members entries wholeMembers)
          refine ⟨Members.ofList_sorted entries, (membersOrdered_iff _).mpr ?_⟩
          intro entry member
          exact each entry (Members.mem_ofList entries entry member)
  | beyond container => cases whole
  | fault => cases whole

theorem itemsOrdered_of_values (items : List Tree) (values : List Json)
    (whole : itemValues? items = some values) : ItemsOrdered values := by
  cases items with
  | nil => cases whole; trivial
  | cons item rest =>
      obtain ⟨value, first, whole⟩ := Option.bind_eq_some_iff.mp whole
      obtain ⟨others, tail, same⟩ := Option.map_eq_some_iff.mp whole
      subst same
      exact ⟨ordered_of_toJson item value first, itemsOrdered_of_values rest others tail⟩

theorem membersOrdered_of_values (members : List (Option String × Tree))
    (entries : List (String × Json)) (whole : memberValues? members = some entries) :
    MembersOrdered entries := by
  cases members with
  | nil => cases whole; trivial
  | cons member rest =>
      obtain ⟨key, tree⟩ := member
      obtain ⟨name, _, whole⟩ := Option.bind_eq_some_iff.mp whole
      obtain ⟨value, first, whole⟩ := Option.bind_eq_some_iff.mp whole
      obtain ⟨others, tail, same⟩ := Option.map_eq_some_iff.mp whole
      subst same
      exact ⟨ordered_of_toJson tree value first, membersOrdered_of_values rest others tail⟩
end

end Tree

theorem read_ordered (text : String) (value : Json) (whole : read? text = some value) :
    Ordered value := by
  unfold read? at whole
  split at whole
  · rename_i tree _
    exact Tree.ordered_of_toJson tree value whole
  · cases whole

end Json

end EntitySchema

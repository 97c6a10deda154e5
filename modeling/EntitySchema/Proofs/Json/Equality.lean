import EntitySchema.Json.Value

set_option autoImplicit false

namespace EntitySchema.Json

mutual
def equal : Json → Json → Bool
  | .null, .null => true
  | .bool a, .bool b => decide (a = b)
  | .number a, .number b => decide (a = b)
  | .string a, .string b => decide (a = b)
  | .array a, .array b => equalItems a b
  | .object a, .object b => equalMembers a b
  | _, _ => false

def equalItems : List Json → List Json → Bool
  | [], [] => true
  | a :: as, b :: bs => equal a b && equalItems as bs
  | _, _ => false

def equalMembers : List (String × Json) → List (String × Json) → Bool
  | [], [] => true
  | (k, a) :: as, (l, b) :: bs => decide (k = l) && equal a b && equalMembers as bs
  | _, _ => false
end

mutual
theorem equal_iff (a b : Json) : equal a b = true ↔ a = b := by
  cases a with
  | array items =>
      cases b with
      | array others => simp [equal, equalItems_iff items others]
      | _ => simp [equal]
  | object members =>
      cases b with
      | object others => simp [equal, equalMembers_iff members others]
      | _ => simp [equal]
  | _ => cases b <;> simp [equal]

theorem equalItems_iff (as bs : List Json) : equalItems as bs = true ↔ as = bs := by
  cases as with
  | nil => cases bs <;> simp [equalItems]
  | cons a rest =>
      cases bs with
      | nil => simp [equalItems]
      | cons b others => simp [equalItems, equal_iff a b, equalItems_iff rest others]

theorem equalMembers_iff (as bs : List (String × Json)) : equalMembers as bs = true ↔ as = bs := by
  cases as with
  | nil => cases bs <;> simp [equalMembers]
  | cons a rest =>
      obtain ⟨k, a⟩ := a
      cases bs with
      | nil => simp [equalMembers]
      | cons b others =>
          obtain ⟨l, b⟩ := b
          simp [equalMembers, equal_iff a b, equalMembers_iff rest others]
end

instance : DecidableEq Json := fun a b => decidable_of_iff _ (equal_iff a b)

end EntitySchema.Json

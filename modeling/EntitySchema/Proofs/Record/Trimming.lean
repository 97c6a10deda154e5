import EntitySchema.Proofs.Record.Normalizer

set_option autoImplicit false

namespace EntitySchema

namespace Json

inductive Step where
  | item (index : Nat)
  | member (key : String)
deriving DecidableEq

def Step.before (step : Step) (text : List Step × String) : List Step × String :=
  (step :: text.1, text.2)

mutual
def strings : Json → List (List Step × String)
  | .string s => [([], s)]
  | .array items => itemStrings 0 items
  | .object members => memberStrings members
  | _ => []

def itemStrings (index : Nat) : List Json → List (List Step × String)
  | [] => []
  | item :: rest => item.strings.map (Step.item index).before ++ itemStrings (index + 1) rest

def memberStrings : List (String × Json) → List (List Step × String)
  | [] => []
  | (key, value) :: rest => value.strings.map (Step.member key).before ++ memberStrings rest
end

mutual
def shape : Json → Json
  | .string _ => .string ""
  | .array items => .array (itemShapes items)
  | .object members => .object (memberShapes members)
  | value => value

def itemShapes : List Json → List Json
  | [] => []
  | item :: rest => item.shape :: itemShapes rest

def memberShapes : List (String × Json) → List (String × Json)
  | [] => []
  | (key, value) :: rest => (key, value.shape) :: memberShapes rest
end

end Json

namespace SanitizeLimits

def passes (limits : SanitizeLimits) : Json.Step → Bool
  | .item _ => true
  | .member key => limits.allows key

def reaches (limits : SanitizeLimits) (depth : Nat) (path : List Json.Step) : Bool :=
  depth + path.length ≤ limits.maxDepth && path.all limits.passes

end SanitizeLimits

namespace DeepTrim

variable (limits : SanitizeLimits)

def trimText (depth : Nat) (text : List Json.Step × String) : List Json.Step × String :=
  (text.1, if limits.reaches depth text.1 then Blank.trim text.2 else text.2)

mutual
theorem trimAt_shape (depth : Nat) (value : Json) :
    (trimAt limits depth value).shape = value.shape := by
  cases value with
  | array items =>
      rw [trimAt]
      split
      · rfl
      · rw [Json.shape, Json.shape, trimItems_shape]
  | object members =>
      rw [trimAt]
      split
      · rfl
      · rw [Json.shape, Json.shape, trimMembers_shape]
  | _ => rfl

theorem trimItems_shape (depth : Nat) (items : List Json) :
    Json.itemShapes (trimItems limits depth items) = Json.itemShapes items := by
  cases items with
  | nil => rfl
  | cons item rest =>
      rw [trimItems, Json.itemShapes, Json.itemShapes, trimAt_shape depth item,
        trimItems_shape depth rest]

theorem trimMembers_shape (depth : Nat) (members : List (String × Json)) :
    Json.memberShapes (trimMembers limits depth members) = Json.memberShapes members := by
  cases members with
  | nil => rfl
  | cons member rest =>
      obtain ⟨key, value⟩ := member
      rw [trimMembers, Json.memberShapes, Json.memberShapes, trimMembers_shape depth rest]
      split
      · rw [trimAt_shape depth value]
      · rfl
end

theorem trimText_before (depth : Nat) (step : Json.Step) (text : List Json.Step × String) :
    trimText limits depth (step.before text) =
      step.before (if limits.passes step then trimText limits (depth + 1) text else text) := by
  have length : depth + (text.1.length + 1) = depth + 1 + text.1.length := by omega
  cases passes : limits.passes step <;>
    simp [trimText, Json.Step.before, SanitizeLimits.reaches, passes, length]

theorem map_before (depth : Nat) (step : Json.Step) (texts : List (List Json.Step × String)) :
    (texts.map step.before).map (trimText limits depth) =
      (if limits.passes step then texts.map (trimText limits (depth + 1)) else texts).map
        step.before := by
  rw [List.map_map]
  cases passes : limits.passes step with
  | true => simp [trimText_before, passes]
  | false => simp [trimText_before, passes]

theorem trimText_beyond (depth : Nat) (ended : limits.maxDepth ≤ depth) (step : Json.Step)
    (text : List Json.Step × String) :
    trimText limits depth (step.before text) = step.before text := by
  have far : ¬depth + (text.1.length + 1) ≤ limits.maxDepth := by omega
  simp [trimText, Json.Step.before, SanitizeLimits.reaches, far]

theorem itemStrings_beyond (depth index : Nat) (items : List Json) (ended : limits.maxDepth ≤ depth) :
    (Json.itemStrings index items).map (trimText limits depth) = Json.itemStrings index items := by
  induction items generalizing index with
  | nil => rfl
  | cons item rest ih =>
      rw [Json.itemStrings, List.map_append, ih, List.map_map]
      congr 1
      exact List.map_congr_left fun text _ => trimText_beyond limits depth ended _ text

theorem memberStrings_beyond (depth : Nat) (members : List (String × Json))
    (ended : limits.maxDepth ≤ depth) :
    (Json.memberStrings members).map (trimText limits depth) = Json.memberStrings members := by
  induction members with
  | nil => rfl
  | cons member rest ih =>
      rw [Json.memberStrings, List.map_append, ih, List.map_map]
      congr 1
      exact List.map_congr_left fun text _ => trimText_beyond limits depth ended _ text

mutual
-- By induction on the value: each step down takes one from what the limits still allow.
theorem trimAt_strings (depth : Nat) (value : Json) (within : depth ≤ limits.maxDepth) :
    (trimAt limits depth value).strings = value.strings.map (trimText limits depth) := by
  cases value with
  | string s => simp [trimAt, Json.strings, trimText, SanitizeLimits.reaches, within]
  | array items =>
      rw [trimAt]
      split
      case isTrue ended => exact (itemStrings_beyond limits depth 0 items ended).symm
      case isFalse more => exact trimItems_strings depth 0 items (Nat.not_le.mp more)
  | object members =>
      rw [trimAt]
      split
      case isTrue ended => exact (memberStrings_beyond limits depth members ended).symm
      case isFalse more => exact trimMembers_strings depth members (Nat.not_le.mp more)
  | _ => rfl

theorem trimItems_strings (depth index : Nat) (items : List Json) (within : depth < limits.maxDepth) :
    Json.itemStrings index (trimItems limits (depth + 1) items) =
      (Json.itemStrings index items).map (trimText limits depth) := by
  cases items with
  | nil => rfl
  | cons item rest =>
      rw [trimItems, Json.itemStrings, Json.itemStrings, List.map_append, map_before,
        trimAt_strings (depth + 1) item within, trimItems_strings depth (index + 1) rest within]
      rfl

theorem trimMembers_strings (depth : Nat) (members : List (String × Json))
    (within : depth < limits.maxDepth) :
    Json.memberStrings (trimMembers limits (depth + 1) members) =
      (Json.memberStrings members).map (trimText limits depth) := by
  cases members with
  | nil => rfl
  | cons member rest =>
      obtain ⟨key, value⟩ := member
      have here := trimAt_strings (depth + 1) value within
      rw [trimMembers, Json.memberStrings, Json.memberStrings, List.map_append, map_before,
        trimMembers_strings depth rest within]
      congr 2
      rw [SanitizeLimits.passes]
      split
      · exact here
      · rfl
end

end DeepTrim

theorem deepTrim_by_path (limits : SanitizeLimits) (value : Json) :
    (deepTrim limits value).shape = value.shape ∧
      (deepTrim limits value).strings = value.strings.map (fun (path, s) =>
        (path, if path.length ≤ limits.maxDepth && path.all limits.passes then Blank.trim s else s)) ∧
      deepTrim limits (deepTrim limits value) = deepTrim limits value := by
  refine ⟨DeepTrim.trimAt_shape limits 0 value, ?_, deepTrim_again limits value⟩
  rw [deepTrim, DeepTrim.trimAt_strings limits 0 value (Nat.zero_le _)]
  apply List.map_congr_left
  intro text _
  rw [DeepTrim.trimText, SanitizeLimits.reaches, Nat.zero_add]

example : (deepTrim ⟨2, some ["a"]⟩ (.object
      [("a", .array [.string " x ", .array [.string " y "]]), ("b", .string " z ")])).strings =
    [([.member "a", .item 0], "x"), ([.member "a", .item 1, .item 0], " y "),
     ([.member "b"], " z ")] := by
  decide +kernel

end EntitySchema

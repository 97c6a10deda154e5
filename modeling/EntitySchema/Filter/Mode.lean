import EntitySchema.Field.Kind

set_option autoImplicit false

namespace EntitySchema

inductive MatchMode where
  | startsWith
  | contains
  | endsWith
  | notContains
  | equals
  | notEquals
  | lt
  | lte
  | gt
  | gte
  | between
  | isIn
  | is
  | isNot
  | before
  | after
  | stContains
  | stDwithin
deriving DecidableEq

inductive Comparator where
  | eq
  | ne
  | lt
  | lte
  | gt
  | gte
  | like (negated leading trailing : Bool)
  | range
  | any
  | envelope
  | radius
deriving DecidableEq

namespace MatchMode

def all : List MatchMode :=
  [.startsWith, .contains, .endsWith, .notContains, .equals, .notEquals, .lt, .lte, .gt, .gte,
   .between, .isIn, .is, .isNot, .before, .after, .stContains, .stDwithin]

def name : MatchMode → String
  | .startsWith => "startsWith"
  | .contains => "contains"
  | .endsWith => "endsWith"
  | .notContains => "notContains"
  | .equals => "equals"
  | .notEquals => "notEquals"
  | .lt => "lt"
  | .lte => "lte"
  | .gt => "gt"
  | .gte => "gte"
  | .between => "between"
  | .isIn => "in"
  | .is => "is"
  | .isNot => "isNot"
  | .before => "before"
  | .after => "after"
  | .stContains => "st_contains"
  | .stDwithin => "st_dwithin"

def parse? (s : String) : Option MatchMode := all.find? fun mode => mode.name == s

def comparator : MatchMode → Comparator
  | .equals | .is => .eq
  | .notEquals | .isNot => .ne
  | .lt | .before => .lt
  | .lte => .lte
  | .gt | .after => .gt
  | .gte => .gte
  | .startsWith => .like false false true
  | .endsWith => .like false true false
  | .contains => .like false true true
  | .notContains => .like true true true
  | .between => .range
  | .isIn => .any
  | .stContains => .envelope
  | .stDwithin => .radius

def nullTest? (mode : MatchMode) : Option Bool :=
  match mode.comparator with
  | .eq => some false
  | .ne => some true
  | _ => none

def standard : FilterCategory → List MatchMode
  | .string => [.startsWith, .contains, .endsWith, .notContains, .equals, .notEquals, .isIn]
  | .number => [.equals, .notEquals, .lt, .lte, .gt, .gte, .between, .isIn]
  | .date => [.is, .isNot, .before, .after, .lte, .gte, .between]
  | .boolean => [.equals, .notEquals]
  | .array => [.isIn]
  | .geometry => [.stContains, .stDwithin]

-- The mode of a filter that names none. For a place the value decides: bounds ask for what they
-- contain, anything else for what is near.
def default (category : FilterCategory) (value : Json) : MatchMode :=
  match category with
  | .string | .number | .boolean => .equals
  | .date => .is
  | .array => .isIn
  | .geometry => if (value.get? "bounds").isSome then .stContains else .stDwithin

end MatchMode

structure MatchModes where
  added : List (FilterCategory × MatchMode)

namespace MatchModes

def standard : MatchModes := ⟨[]⟩

def add (modes : MatchModes) (category : FilterCategory) (mode : MatchMode) : MatchModes :=
  ⟨(category, mode) :: modes.added⟩

def allows (modes : MatchModes) (category : FilterCategory) (mode : MatchMode) : Bool :=
  (MatchMode.standard category).contains mode || modes.added.contains (category, mode)

def modesOf (modes : MatchModes) (category : FilterCategory) : List MatchMode :=
  MatchMode.all.filter (modes.allows category)

end MatchModes

end EntitySchema

import EntitySchema.Event
import EntitySchema.Filter.Interpretation

/-!
# Predicates

The filters of a map are compiled field by field, each to a fragment of a predicate, with the values
they compare bound behind those bound before. Filters that mean nothing are dropped, and say why;
they bind nothing.
-/

set_option autoImplicit false

namespace EntitySchema

structure DroppedFilter where
  field : String
  anomaly : FilterAnomaly

structure Compiled where
  fragments : List Sql.Fragment
  values : List Json
  dropped : List DroppedFilter
  events : List Event

namespace Filter

def compile (e : Entity) (modes : MatchModes) (field : String) (filter : Filter) (bound : Nat) :
    Except FilterAnomaly Emitted :=
  (Interpretation.condition e modes field filter).map fun condition =>
    condition.emit [.name field] bound

end Filter

namespace Compiled

def nothing : Compiled := ⟨[], [], [], []⟩

def skip (field : String) (anomaly : FilterAnomaly) : Compiled :=
  ⟨[], [], [⟨field, anomaly⟩], [.filterDropped field anomaly.message]⟩

def one (field : String) (emitted : Emitted) : Compiled :=
  ⟨[emitted.sql], emitted.values, [], [.filterCompiled field]⟩

def append (a b : Compiled) : Compiled :=
  ⟨a.fragments ++ b.fragments, a.values ++ b.values, a.dropped ++ b.dropped, a.events ++ b.events⟩

end Compiled

namespace FilterInput

def compileFilter (e : Entity) (modes : MatchModes) (field : String) (bound : Nat)
    (filter : Filter) : Compiled :=
  match filter.compile e modes field bound with
  | .ok emitted => .one field emitted
  | .error anomaly => .skip field anomaly

def compileFilters (e : Entity) (modes : MatchModes) (field : String) :
    Nat → List Filter → Compiled
  | _, [] => .nothing
  | bound, filter :: rest =>
    let first := compileFilter e modes field bound filter
    first.append (compileFilters e modes field (bound + first.values.length) rest)

def joinFragments (connective : Connective) : List Sql.Fragment → List Sql.Fragment
  | [] => []
  | fragments => [joined connective.name fragments]

def compile (e : Entity) (modes : MatchModes) (field : String) (bound : Nat) :
    FilterInput → Compiled
  | .single filter => compileFilter e modes field bound filter
  | .malformed _ reason => .skip field (.malformed reason)
  | .many [] => .skip field .empty
  | .many (first :: rest) =>
    let parts := compileFilters e modes field bound (first :: rest)
    { parts with fragments := joinFragments (first.connective.getD .and) parts.fragments }

end FilterInput

namespace FilterMap

def compile (e : Entity) (modes : MatchModes) : Nat → FilterMap → Compiled
  | _, [] => .nothing
  | bound, (field, input) :: rest =>
    let first := input.compile e modes field bound
    first.append (compile e modes (bound + first.values.length) rest)

end FilterMap

def Compiled.predicate? (c : Compiled) (connective : Connective) : Option Sql.Fragment :=
  match c.fragments with
  | [] => none
  | fragments => some (Sql.Fragment.join (" " ++ connective.name ++ " ") fragments)

end EntitySchema

import EntitySchema.Filter.Predicate
import EntitySchema.Proofs.Entity.WellFormed
import EntitySchema.Proofs.Filter.Acceptance

set_option autoImplicit false

namespace EntitySchema

open Sql Sql.Fragment

theorem compile_numbered (e : Entity) (wellFormed : e.WellFormed) (modes : MatchModes)
    (field : String) (filter : Filter) (bound : Nat) (emitted : Emitted)
    (compiled : filter.compile e modes field bound = .ok emitted) :
    emitted.Numbered bound bound := by
  obtain ⟨condition, accepted, same⟩ := (map_ok_iff _ _ _).mp compiled
  subst same
  obtain ⟨p, found, _, _⟩ :=
    Interpretation.condition_accepted e modes field filter condition accepted
  have clean := property_unquoted e wellFormed field p found
  have full := Interpretation.condition_full e modes field filter condition accepted
  exact condition_numbered condition full _ bound (name_numbered field 0 clean)

namespace Compiled

def Numbered (bound : Nat) (c : Compiled) : Prop :=
  RowNumbered bound (bound + c.values.length) c.fragments

theorem skip_numbered (bound : Nat) (field : String) (anomaly : FilterAnomaly) :
    (skip field anomaly).Numbered bound := row_nil bound

theorem append_numbered (bound : Nat) (a b : Compiled) (first : a.Numbered bound)
    (second : b.Numbered (bound + a.values.length)) : (a.append b).Numbered bound := by
  have row := row_append _ _ _ _ _ first second
  simpa [Numbered, append, Nat.add_assoc] using row

end Compiled

namespace FilterInput

variable (e : Entity) (modes : MatchModes) (field : String)

theorem compileFilter_numbered (wellFormed : e.WellFormed) (bound : Nat) (filter : Filter) :
    (compileFilter e modes field bound filter).Numbered bound := by
  unfold compileFilter
  cases compiled : filter.compile e modes field bound with
  | ok emitted =>
      exact row_single _ _ _ (compile_numbered e wellFormed modes field filter bound emitted compiled)
  | error anomaly => exact Compiled.skip_numbered bound field anomaly

theorem compileFilters_numbered (wellFormed : e.WellFormed) (filters : List Filter) (bound : Nat) :
    (compileFilters e modes field bound filters).Numbered bound := by
  induction filters generalizing bound with
  | nil => exact row_nil bound
  | cons filter rest ih =>
      exact Compiled.append_numbered bound _ _
        (compileFilter_numbered e modes field wellFormed bound filter) (ih _)

theorem joinFragments_numbered (first last : Nat) (connective : Connective)
    (fragments : List Fragment) (row : RowNumbered first last fragments) :
    RowNumbered first last (joinFragments connective fragments) := by
  cases fragments with
  | nil => exact row
  | cons fragment rest =>
      exact row_single _ _ _
        (joined_numbered _ _ connective.name _ row (by cases connective <;> decide))

theorem compile_numbered (wellFormed : e.WellFormed) (bound : Nat) (input : FilterInput) :
    (compile e modes field bound input).Numbered bound := by
  cases input with
  | single filter => exact compileFilter_numbered e modes field wellFormed bound filter
  | malformed raw reason => exact Compiled.skip_numbered bound field _
  | many filters =>
      cases filters with
      | nil => exact Compiled.skip_numbered bound field _
      | cons first rest =>
          exact joinFragments_numbered _ _ _ _
            (compileFilters_numbered e modes field wellFormed (first :: rest) bound)

end FilterInput

theorem filterMap_numbered (e : Entity) (wellFormed : e.WellFormed) (modes : MatchModes)
    (filters : FilterMap) (bound : Nat) : (filters.compile e modes bound).Numbered bound := by
  induction filters generalizing bound with
  | nil => exact row_nil bound
  | cons entry rest ih =>
      obtain ⟨field, input⟩ := entry
      exact Compiled.append_numbered bound _ _
        (FilterInput.compile_numbered e modes field wellFormed bound input) (ih _)

section Fragments

variable (e : Entity) (modes : MatchModes) (holds : Fragment → Prop)
  (single : ∀ field filter bound emitted, Filter.compile e modes field filter bound = .ok emitted →
    holds emitted.sql)

include single

theorem compileFilter_fragments (field : String) (bound : Nat) (filter : Filter) :
    ∀ fragment ∈ (FilterInput.compileFilter e modes field bound filter).fragments, holds fragment := by
  unfold FilterInput.compileFilter
  cases compiled : filter.compile e modes field bound with
  | ok emitted => simpa [Compiled.one] using single field filter bound emitted compiled
  | error anomaly => simp [Compiled.skip]

theorem compileFilters_fragments (field : String) (bound : Nat) (filters : List Filter) :
    ∀ fragment ∈ (FilterInput.compileFilters e modes field bound filters).fragments,
      holds fragment := by
  induction filters generalizing bound with
  | nil => simp [FilterInput.compileFilters, Compiled.nothing]
  | cons filter rest ih =>
      intro fragment member
      rcases List.mem_append.mp member with here | later
      · exact compileFilter_fragments e modes holds single field bound filter fragment here
      · exact ih _ fragment later

variable (several : ∀ (connective : Connective) (fragments : List Fragment),
  (∀ fragment ∈ fragments, holds fragment) → holds (joined connective.name fragments))

include several

theorem input_fragments (field : String) (bound : Nat) (input : FilterInput) :
    ∀ fragment ∈ (input.compile e modes field bound).fragments, holds fragment := by
  cases input with
  | single filter => exact compileFilter_fragments e modes holds single field bound filter
  | malformed raw reason => simp [FilterInput.compile, Compiled.skip]
  | many filters =>
      cases filters with
      | nil => simp [FilterInput.compile, Compiled.skip]
      | cons first rest =>
          have parts := compileFilters_fragments e modes holds single field bound (first :: rest)
          intro fragment member
          simp only [FilterInput.compile] at member
          generalize (FilterInput.compileFilters e modes field bound (first :: rest)).fragments =
            fragments at parts member
          cases fragments with
          | nil => cases member
          | cons one others => exact List.mem_singleton.mp member ▸ several _ _ parts

theorem filterMap_fragments (filters : FilterMap) (bound : Nat) :
    ∀ fragment ∈ (filters.compile e modes bound).fragments, holds fragment := by
  induction filters generalizing bound with
  | nil => simp [FilterMap.compile, Compiled.nothing]
  | cons entry rest ih =>
      obtain ⟨field, input⟩ := entry
      intro fragment member
      rcases List.mem_append.mp member with here | later
      · exact input_fragments e modes holds single several field bound input fragment here
      · exact ih _ fragment later

end Fragments

end EntitySchema

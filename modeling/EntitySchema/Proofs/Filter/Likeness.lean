import EntitySchema.Proofs.Filter.Dropping
import EntitySchema.Proofs.Filter.Outline

set_option autoImplicit false

namespace EntitySchema

theorem condition_blank_count (condition : Condition) (column : Sql.Fragment) (bound : Nat) :
    (condition.blank.emit column bound).values.length =
      (condition.emit column bound).values.length := by
  cases condition with
  | column test => exact (test_blank_alike test column bound).count
  | document members => exact (members_blank_alike members column bound).count
  | someElement tuples => exact (tuples_blank_alike tuples bound).count
  | holdsAny values => simp [Condition.blank, Condition.emit]
  | within minLng minLat maxLng maxLat => rfl
  | near lng lat radius => rfl

theorem emit_alike (condition other : Condition) (column : Sql.Fragment) (bound : Nat)
    (alike : condition.blank = other.blank) :
    (condition.emit column bound).Alike (other.emit column bound) := by
  constructor
  · rw [← condition_blank_alike condition, alike, condition_blank_alike other]
  · rw [← condition_blank_count condition, alike, condition_blank_count other]

structure Filter.Alike (e : Entity) (modes : MatchModes) (field : String) (f g : Filter) : Prop where
  mode : f.matchMode = g.matchMode
  names : f.subProps.map List.length = g.subProps.map List.length
  shape : f.value.outline = g.value.outline
  bounds : ∀ p, e.property? field = some p → p.type.category = some .geometry →
    f.matchMode = none → (f.value.get? "bounds").isSome = (g.value.get? "bounds").isSome
  outcome : (Interpretation.condition e modes field f).isOk =
    (Interpretation.condition e modes field g).isOk

inductive FilterInput.Alike (e : Entity) (modes : MatchModes) (field : String) :
    FilterInput → FilterInput → Prop where
  | single (f g : Filter) (alike : f.Alike e modes field g) :
      FilterInput.Alike e modes field (.single f) (.single g)
  | many (f g : Filter) (fs gs : List Filter) (connective : f.connective = g.connective)
      (alike : List.Forall₂ (Filter.Alike e modes field) (f :: fs) (g :: gs)) :
      FilterInput.Alike e modes field (.many (f :: fs)) (.many (g :: gs))

inductive FilterMap.Alike (e : Entity) (modes : MatchModes) : FilterMap → FilterMap → Prop where
  | nil : FilterMap.Alike e modes [] []
  | entry (field : String) (a b : FilterInput) (rest others : FilterMap)
      (alike : a.Alike e modes field b) (later : FilterMap.Alike e modes rest others) :
      FilterMap.Alike e modes ((field, a) :: rest) ((field, b) :: others)
  | fruitless (field other : String) (a b : FilterInput) (rest others : FilterMap)
      (nothing : a.Fruitless e modes field) (nothing' : b.Fruitless e modes other)
      (later : FilterMap.Alike e modes rest others) :
      FilterMap.Alike e modes ((field, a) :: rest) ((other, b) :: others)

namespace Compiled

structure Alike (a b : Compiled) : Prop where
  fragments : a.fragments = b.fragments
  count : a.values.length = b.values.length

theorem append_alike (a b a' b' : Compiled) (first : a.Alike a') (second : b.Alike b') :
    (a.append b).Alike (a'.append b') := by
  constructor
  · simp [append, first.fragments, second.fragments]
  · simp [append, first.count, second.count]

theorem barren_alike (field other : String) (a b : Compiled) (barren : a.Barren field)
    (barren' : b.Barren other) : a.Alike b :=
  ⟨barren.fragments.trans barren'.fragments.symm, by rw [barren.values, barren'.values]⟩

end Compiled

variable (e : Entity) (modes : MatchModes)

namespace FilterInput

theorem compileFilter_alike (field : String) (bound : Nat) (f g : Filter)
    (alike : f.Alike e modes field g) :
    (compileFilter e modes field bound f).Alike (compileFilter e modes field bound g) := by
  have outcome := alike.outcome
  unfold compileFilter Filter.compile
  cases accepted : Interpretation.condition e modes field f with
  | ok condition =>
      cases accepted' : Interpretation.condition e modes field g with
      | ok condition' =>
          have blanked := Interpretation.condition_alike e modes field f g condition condition'
            alike.mode alike.names alike.shape alike.bounds accepted accepted'
          have emitted := emit_alike condition condition' [.name field] bound blanked
          exact ⟨congrArg (fun sql => [sql]) emitted.sql, emitted.count⟩
      | error anomaly =>
          rw [accepted, accepted'] at outcome
          cases outcome
  | error anomaly =>
      rw [accepted] at outcome
      obtain ⟨anomaly', refused'⟩ := error_of_isOk _ outcome.symm
      rw [refused']
      exact ⟨rfl, rfl⟩

theorem compileFilters_alike (field : String) (bound : Nat) (fs gs : List Filter)
    (alike : List.Forall₂ (Filter.Alike e modes field) fs gs) :
    (compileFilters e modes field bound fs).Alike (compileFilters e modes field bound gs) := by
  induction alike generalizing bound with
  | nil => exact ⟨rfl, rfl⟩
  | cons here _ ih =>
      have first := compileFilter_alike e modes field bound _ _ here
      rw [compileFilters, compileFilters, first.count]
      exact Compiled.append_alike _ _ _ _ first (ih _)

theorem compile_alike (field : String) (bound : Nat) (a b : FilterInput)
    (alike : a.Alike e modes field b) :
    (compile e modes field bound a).Alike (compile e modes field bound b) := by
  cases alike with
  | single f g alike => exact compileFilter_alike e modes field bound f g alike
  | many f g fs gs connective alike =>
      have parts := compileFilters_alike e modes field bound _ _ alike
      exact ⟨by simp only [compile, connective, parts.fragments], parts.count⟩

end FilterInput

theorem filterMap_alike (a b : FilterMap) (alike : FilterMap.Alike e modes a b) (bound : Nat) :
    (a.compile e modes bound).Alike (b.compile e modes bound) := by
  induction alike generalizing bound with
  | nil => exact ⟨rfl, rfl⟩
  | entry field a b rest others alike _ ih =>
      have first := FilterInput.compile_alike e modes field bound a b alike
      rw [FilterMap.compile, FilterMap.compile, first.count]
      exact Compiled.append_alike _ _ _ _ first (ih _)
  | fruitless field other a b rest others nothing nothing' _ ih =>
      have first := Compiled.barren_alike field other _ _
        (FilterInput.compile_barren e modes field bound a nothing)
        (FilterInput.compile_barren e modes other bound b nothing')
      rw [FilterMap.compile, FilterMap.compile, first.count]
      exact Compiled.append_alike _ _ _ _ first (ih _)

end EntitySchema

import EntitySchema.Proofs.Filter.Binding
import EntitySchema.Proofs.Filter.Dropping

set_option autoImplicit false

namespace EntitySchema

abbrev Outcome := Except FilterAnomaly Sql.Fragment

namespace Outcome

def fragment? : Outcome → Option Sql.Fragment
  | .ok fragment => some fragment
  | .error _ => none

def anomaly? : Outcome → Option FilterAnomaly
  | .ok _ => none
  | .error anomaly => some anomaly

end Outcome

namespace Event

def compiled? : Event → Option String
  | .filterCompiled field => some field
  | _ => none

def dropped? : Event → Option (String × String)
  | .filterDropped field reason => some (field, reason)
  | _ => none

end Event

namespace FilterInput

def fault? : FilterInput → Option FilterAnomaly
  | .malformed _ reason => some (.malformed reason)
  | .many [] => some .empty
  | _ => none

def connective (input : FilterInput) : Connective :=
  (input.filters.head?.bind Filter.connective).getD .and

end FilterInput

structure Account where
  field : String
  input : FilterInput
  outcomes : List Outcome

namespace Account

def compiled (a : Account) : List Sql.Fragment := a.outcomes.filterMap Outcome.fragment?

def refused (a : Account) : List FilterAnomaly := a.outcomes.filterMap Outcome.anomaly?

def fragment? (a : Account) : Option Sql.Fragment :=
  match a.compiled with
  | [] => none
  | parts => some (joined a.input.connective.name parts)

def dropped (a : Account) : List DroppedFilter :=
  (a.input.fault?.toList ++ a.refused).map fun anomaly => ⟨a.field, anomaly⟩

def eventOf (field : String) : Outcome → Event
  | .ok _ => .filterCompiled field
  | .error anomaly => .filterDropped field anomaly.message

def events (a : Account) : List Event :=
  (a.input.fault?.toList.map fun anomaly => .filterDropped a.field anomaly.message) ++
    a.outcomes.map (eventOf a.field)

end Account

def Filter.compileEach (e : Entity) (modes : MatchModes) (field : String) :
    List Filter → List Json → List Outcome × List Json
  | [], args => ([], args)
  | filter :: rest, args =>
    let first := filter.compileOnto e modes field args
    let others := compileEach e modes field rest first.2
    (first.1 :: others.1, others.2)

def FilterMap.account (e : Entity) (modes : MatchModes) :
    FilterMap → List Json → List Account × List Json
  | [], args => ([], args)
  | (field, input) :: rest, args =>
    let here := Filter.compileEach e modes field input.filters args
    let others := account e modes rest here.2
    (⟨field, input, here.1⟩ :: others.1, others.2)

namespace Compiled

structure Tells (field : String) (outcomes : List Outcome) (c : Compiled) : Prop where
  fragments : c.fragments = outcomes.filterMap Outcome.fragment?
  dropped : c.dropped =
    (outcomes.filterMap Outcome.anomaly?).map fun anomaly => ⟨field, anomaly⟩
  events : c.events = outcomes.map (Account.eventOf field)

theorem append_tells (field : String) (first second : List Outcome) (a b : Compiled)
    (one : a.Tells field first) (two : b.Tells field second) :
    (a.append b).Tells field (first ++ second) := by
  constructor
  · simp [append, one.fragments, two.fragments]
  · simp [append, one.dropped, two.dropped]
  · simp [append, one.events, two.events]

end Compiled

namespace FilterInput

variable (e : Entity) (modes : MatchModes) (field : String)

theorem compileFilter_tells (filter : Filter) (args : List Json) :
    let outcome := filter.compileOnto e modes field args
    let c := compileFilter e modes field args.length filter
    c.Tells field [outcome.1] ∧ outcome.2 = args ++ c.values := by
  intro outcome c
  have came : outcome = _ := compileOnto_eq e modes field filter args
  unfold c compileFilter
  cases compiled : filter.compile e modes field args.length with
  | ok emitted =>
      rw [compiled] at came
      rw [came]
      exact ⟨⟨rfl, rfl, rfl⟩, rfl⟩
  | error anomaly =>
      rw [compiled] at came
      rw [came]
      exact ⟨⟨rfl, rfl, rfl⟩, by simp [Compiled.skip]⟩

theorem compileFilters_tells (filters : List Filter) (args : List Json) :
    let run := Filter.compileEach e modes field filters args
    let c := compileFilters e modes field args.length filters
    c.Tells field run.1 ∧ run.2 = args ++ c.values := by
  induction filters generalizing args with
  | nil =>
      exact ⟨⟨rfl, rfl, rfl⟩, by simp [Filter.compileEach, compileFilters, Compiled.nothing]⟩
  | cons filter rest ih =>
      obtain ⟨one, bound⟩ := compileFilter_tells e modes field filter args
      obtain ⟨others, boundOthers⟩ := ih (filter.compileOnto e modes field args).2
      have behind : (filter.compileOnto e modes field args).2.length =
          args.length + (compileFilter e modes field args.length filter).values.length := by
        rw [bound, List.length_append]
      rw [behind] at others boundOthers
      refine ⟨Compiled.append_tells field [_] _ _ _ one others, ?_⟩
      simp only [Filter.compileEach, compileFilters, Compiled.append]
      rw [boundOthers, bound, List.append_assoc]

theorem compile_accounted (input : FilterInput) (args : List Json) :
    let run := Filter.compileEach e modes field input.filters args
    let c := compile e modes field args.length input
    let account : Account := ⟨field, input, run.1⟩
    c.fragments = account.fragment?.toList ∧ c.dropped = account.dropped ∧
      c.events = account.events ∧ run.2 = args ++ c.values := by
  cases input with
  | single filter =>
      obtain ⟨told, bound⟩ := compileFilter_tells e modes field filter args
      refine ⟨?_, told.dropped, told.events, bound⟩
      rw [compile, told.fragments]
      simp only [Account.fragment?, Account.compiled, filters, Filter.compileEach]
      cases (filter.compileOnto e modes field args).1 with
      | ok fragment => rfl
      | error anomaly => rfl
  | malformed raw reason =>
      exact ⟨rfl, rfl, rfl, by simp [filters, Filter.compileEach, compile, Compiled.skip]⟩
  | many list =>
      cases list with
      | nil => exact ⟨rfl, rfl, rfl, by simp [filters, Filter.compileEach, compile, Compiled.skip]⟩
      | cons first rest =>
          obtain ⟨told, bound⟩ := compileFilters_tells e modes field (first :: rest) args
          refine ⟨?_, told.dropped, told.events, bound⟩
          simp only [compile, told.fragments, Account.fragment?, Account.compiled, filters]
          generalize ((Filter.compileEach e modes field (first :: rest) args).1.filterMap
            Outcome.fragment?) = compiled
          cases compiled <;> rfl

end FilterInput

variable (e : Entity) (modes : MatchModes)

theorem filterMap_accounted (filters : FilterMap) (args : List Json) :
    let account := filters.account e modes args
    let c := filters.compile e modes args.length
    c.fragments = account.1.filterMap Account.fragment? ∧
      c.dropped = account.1.flatMap Account.dropped ∧
      c.events = account.1.flatMap Account.events ∧ account.2 = args ++ c.values := by
  induction filters generalizing args with
  | nil => simp [FilterMap.account, FilterMap.compile, Compiled.nothing]
  | cons entry rest ih =>
      obtain ⟨field, input⟩ := entry
      obtain ⟨fragments, dropped, events, bound⟩ :=
        FilterInput.compile_accounted e modes field input args
      have others := ih (Filter.compileEach e modes field input.filters args).2
      have behind : (Filter.compileEach e modes field input.filters args).2.length =
          args.length + (input.compile e modes field args.length).values.length := by
        rw [bound, List.length_append]
      rw [behind] at others
      obtain ⟨fragmentsOthers, droppedOthers, eventsOthers, boundOthers⟩ := others
      simp only [FilterMap.account, FilterMap.compile, Compiled.append, List.flatMap_cons]
      refine ⟨?_, by rw [dropped, droppedOthers], by rw [events, eventsOthers], ?_⟩
      · rw [fragments, fragmentsOthers, List.filterMap_cons]
        cases Account.fragment? _ <;> rfl
      · rw [boundOthers, bound, List.append_assoc]

theorem account_entries (filters : FilterMap) (args : List Json) :
    (filters.account e modes args).1.map (fun a => (a.field, a.input)) = filters := by
  induction filters generalizing args with
  | nil => rfl
  | cons entry rest ih =>
      obtain ⟨field, input⟩ := entry
      simp only [FilterMap.account, List.map_cons, ih]

theorem compileEach_length (field : String) (filters : List Filter) (args : List Json) :
    (Filter.compileEach e modes field filters args).1.length = filters.length := by
  induction filters generalizing args with
  | nil => rfl
  | cons filter rest ih => simp only [Filter.compileEach, List.length_cons, ih]

theorem outcomes_split (outcomes : List Outcome) :
    (outcomes.filterMap Outcome.fragment?).length + (outcomes.filterMap Outcome.anomaly?).length =
      outcomes.length := by
  induction outcomes with
  | nil => rfl
  | cons outcome rest ih =>
      cases outcome <;> simp only [List.filterMap_cons, Outcome.fragment?, Outcome.anomaly?,
        List.length_cons] <;> omega

theorem account_counts (filters : FilterMap) (args : List Json) :
    ∀ a ∈ (filters.account e modes args).1,
      a.compiled.length + a.refused.length = a.input.filters.length := by
  induction filters generalizing args with
  | nil => simp [FilterMap.account]
  | cons entry rest ih =>
      obtain ⟨field, input⟩ := entry
      intro a member
      rcases List.mem_cons.mp member with here | later
      · subst here
        exact (outcomes_split _).trans (compileEach_length e modes field input.filters args)
      · exact ih _ a later

theorem account_events (a : Account) :
    a.events.filterMap Event.dropped? = a.dropped.map (fun d => (d.field, d.anomaly.message)) ∧
      a.events.filterMap Event.compiled? = a.compiled.map fun _ => a.field := by
  obtain ⟨field, input, outcomes⟩ := a
  have told : (outcomes.map (Account.eventOf field)).filterMap Event.dropped? =
        (outcomes.filterMap Outcome.anomaly?).map (fun anomaly => (field, anomaly.message)) ∧
      (outcomes.map (Account.eventOf field)).filterMap Event.compiled? =
        (outcomes.filterMap Outcome.fragment?).map fun _ => field := by
    induction outcomes with
    | nil => exact ⟨rfl, rfl⟩
    | cons outcome rest ih =>
        cases outcome with
        | ok fragment => exact ⟨ih.1, congrArg (field :: ·) ih.2⟩
        | error anomaly => exact ⟨congrArg ((field, anomaly.message) :: ·) ih.1, ih.2⟩
  simp only [Account.events, Account.dropped, Account.compiled, Account.refused,
    List.filterMap_append, List.map_append, List.map_map, told]
  cases input.fault? <;> exact ⟨rfl, rfl⟩

theorem dropped_of_field (accounts : List Account)
    (ascending : (accounts.map Account.field).Pairwise (· < ·))
    (a : Account) (member : a ∈ accounts) :
    (accounts.flatMap Account.dropped).filter (fun d => d.field == a.field) = a.dropped := by
  have own : ∀ b : Account, ∀ d ∈ b.dropped, d.field = b.field := by
    intro b d inDropped
    obtain ⟨_, _, same⟩ := List.mem_map.mp inDropped
    exact same ▸ rfl
  induction accounts with
  | nil => cases member
  | cons first rest ih =>
      rw [List.map_cons, List.pairwise_cons] at ascending
      rw [List.flatMap_cons, List.filter_append]
      rcases List.mem_cons.mp member with here | later
      · subst here
        have others : (rest.flatMap Account.dropped).filter (fun d => d.field == a.field) = [] := by
          apply List.filter_eq_nil_iff.mpr
          intro d inOthers
          obtain ⟨b, inRest, inDropped⟩ := List.mem_flatMap.mp inOthers
          have above := ascending.1 b.field (List.mem_map_of_mem inRest)
          simpa [own b d inDropped] using (String.ne_of_lt above).symm
        rw [others, List.append_nil]
        apply List.filter_eq_self.mpr
        intro d inDropped
        simpa using own a d inDropped
      · have above := ascending.1 a.field (List.mem_map_of_mem later)
        have none : first.dropped.filter (fun d => d.field == a.field) = [] := by
          apply List.filter_eq_nil_iff.mpr
          intro d inDropped
          simpa [own first d inDropped] using String.ne_of_lt above
        rw [none, List.nil_append]
        exact ih ascending.2 later

-- Every filter is compiled or dropped, and told of once. A field has one fragment if any of its
-- filters compiles, joined from those that do; fragments and drops stand in the order of the fields.
theorem filters_accounted (e : Entity) (modes : MatchModes) (filters : FilterMap) (args : List Json)
    (sorted : Members.Sorted filters) :
    let run := filters.compileOnto e modes args
    let events := (filters.compile e modes args.length).events
    let account := filters.account e modes args
    account.1.map (fun a => (a.field, a.input)) = filters ∧
      (account.1.map Account.field).Pairwise (· < ·) ∧
      (∀ a ∈ account.1, a.compiled.length + a.refused.length = a.input.filters.length) ∧
      run.fragments = account.1.filterMap Account.fragment? ∧
      run.dropped = account.1.flatMap Account.dropped ∧
      (∀ a ∈ account.1, run.dropped.filter (fun d => d.field == a.field) = a.dropped) ∧
      run.args = account.2 ∧
      events = account.1.flatMap Account.events ∧
      events.filterMap Event.dropped? =
        run.dropped.map (fun d => (d.field, d.anomaly.message)) ∧
      events.filterMap Event.compiled? =
        account.1.flatMap fun a => a.compiled.map fun _ => a.field := by
  intro run events account
  have entries := account_entries e modes filters args
  obtain ⟨fragments, dropped, events_eq, bound⟩ := filterMap_accounted e modes filters args
  have told : events = account.1.flatMap Account.events := events_eq
  have runs : run = (Pass.start args).add (filters.compile e modes args.length) :=
    filterMap_compileOnto_eq e modes filters args
  have ran : run.dropped = account.1.flatMap Account.dropped := by
    rw [runs]
    exact dropped
  have ascending : (account.1.map Account.field).Pairwise (· < ·) := by
    have fields : account.1.map Account.field = filters.map Prod.fst := by
      rw [← entries, List.map_map]
      rfl
    rw [fields]
    exact List.pairwise_map.mpr sorted
  refine ⟨entries, ascending, account_counts e modes filters args, ?_, ran, ?_, ?_, told, ?_, ?_⟩
  · rw [runs]
    exact fragments
  · rw [ran]
    exact dropped_of_field account.1 ascending
  · rw [runs]
    exact bound.symm
  · rw [ran, told, List.filterMap_flatMap, List.map_flatMap]
    exact List.flatMap_congr fun a _ => (account_events a).1
  · rw [told, List.filterMap_flatMap]
    exact List.flatMap_congr fun a _ => (account_events a).2

def ordersMixed : FilterMap :=
  [("cost $1", .many
      [⟨.ofCount 1, some "gte", none, some .or⟩, ⟨.string "many", none, none, none⟩,
       ⟨.ofCount 9, some "lt", none, none⟩]),
   ("id", .many [⟨.null, some "gt", none, none⟩, ⟨.string "x", none, none, none⟩]),
   ("itemsJsonAgg", .many []),
   ("meta", .ofJson .null)]

theorem ordersMixed_accounted :
    Members.Sorted ordersMixed ∧
      (ordersMixed.compileOnto orders .standard [.null]).fragments.map Sql.Fragment.render =
        ["(\"cost $1\" >= $2 OR \"cost $1\" < $3)"] ∧
      (ordersMixed.compileOnto orders .standard [.null]).dropped.map DroppedFilter.field =
        ["cost $1", "id", "id", "itemsJsonAgg", "meta"] ∧
      (ordersMixed.compile orders .standard 1).events.filterMap Event.compiled? =
        ["cost $1", "cost $1"] ∧
      (ordersMixed.compile orders .standard 1).events.filterMap Event.dropped? =
        (ordersMixed.compileOnto orders .standard [.null]).dropped.map
          (fun d => (d.field, d.anomaly.message)) := by
  have sorted : Members.Sorted ordersMixed := by
    unfold Members.Sorted ordersMixed
    decide +kernel
  obtain ⟨_, _, _, fragments, dropped, _, _, _, told, compiled⟩ :=
    filters_accounted orders .standard ordersMixed [.null] sorted
  refine ⟨sorted, ?_, ?_, ?_, told⟩
  · rw [fragments]
    decide +kernel
  · rw [dropped]
    decide +kernel
  · rw [← List.length_singleton (a := Json.null), compiled]
    decide +kernel

end EntitySchema

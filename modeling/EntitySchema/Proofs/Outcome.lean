import Mathlib.Data.List.Forall2

set_option autoImplicit false

namespace EntitySchema

variable {ε α β : Type}

theorem map_ok_iff (outcome : Except ε α) (f : α → β) (result : β) :
    outcome.map f = .ok result ↔ ∃ value, outcome = .ok value ∧ f value = result := by
  cases outcome <;> simp [Except.map]

theorem bind_ok_iff (outcome : Except ε α) (next : α → Except ε β) (result : β) :
    outcome >>= next = .ok result ↔ ∃ value, outcome = .ok value ∧ next value = .ok result := by
  cases outcome <;> simp [bind, Except.bind]

theorem pure_ok_iff (value result : α) : (pure value : Except ε α) = .ok result ↔ value = result := by
  simp [pure, Except.pure]

theorem ok_getD (outcome : Except ε α) (fallback : α) (accepted : outcome.isOk = true) :
    outcome = .ok (outcome.toOption.getD fallback) := by
  cases outcome with
  | error fault => cases accepted
  | ok value => rfl

theorem ok_of_toOption (outcome : Except ε α) (value : α) (given : outcome.toOption = some value) :
    outcome = .ok value := by
  cases outcome with
  | error fault => cases given
  | ok result => exact congrArg Except.ok (Option.some.inj given)

theorem ok_of_any (outcome : Except ε α) (test : α → Bool)
    (holds : outcome.toOption.any test = true) : ∃ value, outcome = .ok value ∧ test value = true := by
  cases outcome with
  | error fault => cases holds
  | ok value => exact ⟨value, rfl, holds⟩

theorem error_of_isOk (outcome : Except ε α) (refused : outcome.isOk = false) :
    ∃ fault, outcome = .error fault := by
  cases outcome with
  | error fault => exact ⟨fault, rfl⟩
  | ok value => cases refused

theorem mapM_ok_iff (f : α → Except ε β) (values : List α) (results : List β) :
    values.mapM f = .ok results ↔ List.Forall₂ (fun value result => f value = .ok result) values results := by
  induction values generalizing results with
  | nil => cases results <;> simp [pure_ok_iff]
  | cons value rest ih =>
      simp only [List.mapM_cons, bind_ok_iff, pure_ok_iff, ih]
      constructor
      · rintro ⟨first, firstOk, others, othersOk, same⟩
        subst same
        exact .cons firstOk othersOk
      · intro steps
        cases steps with
        | cons firstOk othersOk => exact ⟨_, firstOk, _, othersOk, rfl⟩

theorem mapM_accepts (f : α → Except ε β) (values : List α) :
    (∃ results, values.mapM f = .ok results) ↔ ∀ value ∈ values, ∃ result, f value = .ok result := by
  induction values with
  | nil => simp [pure_ok_iff]
  | cons value rest ih =>
      rw [List.forall_mem_cons, ← ih]
      simp only [List.mapM_cons, bind_ok_iff, pure_ok_iff]
      constructor
      · rintro ⟨_, first, firstOk, others, othersOk, _⟩
        exact ⟨⟨first, firstOk⟩, others, othersOk⟩
      · rintro ⟨⟨first, firstOk⟩, others, othersOk⟩
        exact ⟨_, first, firstOk, others, othersOk, rfl⟩

theorem mapM_same (f : α → Except ε α) (values : List α) :
    values.mapM f = .ok values ↔ ∀ value ∈ values, f value = .ok value := by
  rw [mapM_ok_iff, List.forall₂_same]

theorem given_same (f : α → Except ε α) (given : Option α) :
    given.mapM f = .ok given ↔ ∀ value ∈ given.toList, f value = .ok value := by
  cases given with
  | none => simp [pure, Except.pure]
  | some value =>
      rw [Option.mapM_some]
      cases step : f value <;> simp [step]

theorem mapM_agree (f g : α → Except ε β) (values : List α)
    (agree : ∀ value ∈ values, f value = g value) : values.mapM f = values.mapM g := by
  induction values with
  | nil => rfl
  | cons value rest ih =>
      rw [List.mapM_cons, List.mapM_cons, agree value List.mem_cons_self,
        ih fun other member => agree other (List.mem_cons_of_mem _ member)]

theorem mapM_ok_mem (f : α → Except ε β) (values : List α) (results : List β)
    (accepted : values.mapM f = .ok results) (result : β) (member : result ∈ results) :
    ∃ value ∈ values, f value = .ok result := by
  have steps := (mapM_ok_iff f values results).mp accepted
  clear accepted
  induction steps with
  | nil => simp at member
  | cons step _ ih =>
      rcases List.mem_cons.mp member with same | later
      · exact ⟨_, by simp, same ▸ step⟩
      · obtain ⟨value, inRest, accepted⟩ := ih later
        exact ⟨value, by simp [inRest], accepted⟩

theorem mapM_map {γ : Type} (f : α → Except ε γ) (g : α → Except ε β) (change : β → γ)
    (step : ∀ value, f value = (g value).map change) (values : List α) :
    values.mapM f = (values.mapM g).map (List.map change) := by
  induction values with
  | nil => rfl
  | cons value rest ih =>
      rw [List.mapM_cons, List.mapM_cons, step, ih]
      cases g value with
      | error fault => rfl
      | ok first => cases rest.mapM g <;> rfl

theorem mapM_alike {γ δ : Type} (f : α → Except ε β) (g : α → Except ε β) (view : α → γ)
    (blank : β → δ)
    (step : ∀ value other result result', view value = view other → f value = .ok result →
      g other = .ok result' → blank result = blank result')
    (values others : List α) (results results' : List β)
    (alike : values.map view = others.map view) (accepted : values.mapM f = .ok results)
    (accepted' : others.mapM g = .ok results') : results.map blank = results'.map blank := by
  induction values generalizing others results results' with
  | nil =>
      have none : others = [] := by simpa using alike.symm
      subst none
      cases accepted
      cases accepted'
      rfl
  | cons value rest ih =>
      cases others with
      | nil => simp at alike
      | cons other more =>
          simp only [List.map_cons, List.cons.injEq] at alike
          simp only [List.mapM_cons, bind_ok_iff, pure_ok_iff] at accepted accepted'
          obtain ⟨first, firstOk, tail, tailOk, same⟩ := accepted
          obtain ⟨first', firstOk', tail', tailOk', same'⟩ := accepted'
          rw [← same, ← same', List.map_cons, List.map_cons,
            step value other first first' alike.1 firstOk firstOk',
            ih more tail tail' alike.2 tailOk tailOk']

inductive Reports : List ε → Except ε α → Prop where
  | sound (value : α) : Reports [] (.ok value)
  | faulty (fault : ε) (rest : List ε) : Reports (fault :: rest) (.error fault)

theorem reports_bind (faults more : List ε) (outcome : Except ε α) (next : α → Except ε β)
    (first : Reports faults outcome)
    (later : ∀ value, outcome = .ok value → Reports more (next value)) :
    Reports (faults ++ more) (outcome >>= next) := by
  cases first with
  | sound value => exact later value rfl
  | faulty fault rest => exact .faulty fault (rest ++ more)

theorem reports_return (faults : List ε) (outcome : Except ε α) (f : α → β)
    (first : Reports faults outcome) : Reports faults (do return f (← outcome)) := by
  have whole := reports_bind faults [] outcome (fun value => .ok (f value)) first
    fun value _ => .sound (f value)
  rwa [List.append_nil] at whole

theorem reports_mapM (faults : α → List ε) (step : α → Except ε β)
    (each : ∀ value, Reports (faults value) (step value)) (values : List α) :
    Reports (values.flatMap faults) (values.mapM step) := by
  induction values with
  | nil => exact .sound []
  | cons value rest ih =>
      rw [List.mapM_cons, List.flatMap_cons]
      exact reports_bind _ _ _ _ (each value) fun first _ => reports_return _ _ (first :: ·) ih

-- The faults of a value have to be the same whatever the values before it have come to.
theorem reports_foldlM (faults : α → List ε) (step : β → α → Except ε β)
    (each : ∀ state value, Reports (faults value) (step state value)) (values : List α) (state : β) :
    Reports (values.flatMap faults) (values.foldlM step state) := by
  induction values generalizing state with
  | nil => exact .sound state
  | cons value rest ih =>
      rw [List.foldlM_cons, List.flatMap_cons]
      exact reports_bind _ _ _ _ (each state value) fun next _ => ih next

theorem reports_of_map (faults : List ε) (outcome : Except ε α) (f : α → β)
    (reports : Reports faults (outcome.map f)) : Reports faults outcome := by
  cases outcome with
  | error fault =>
      cases reports
      exact .faulty fault _
  | ok value =>
      cases reports
      exact .sound value

theorem reports_error_iff (faults : List ε) (outcome : Except ε α) (reports : Reports faults outcome)
    (fault : ε) : outcome = .error fault ↔ faults.head? = some fault := by
  cases reports <;> simp

theorem reports_sound_iff (faults : List ε) (outcome : Except ε α)
    (reports : Reports faults outcome) : (∃ value, outcome = .ok value) ↔ faults = [] := by
  cases reports <;> simp

theorem reports_refused_iff (faults : List ε) (outcome : Except ε α)
    (reports : Reports faults outcome) : (∃ fault, outcome = .error fault) ↔ faults ≠ [] := by
  cases reports <;> simp

end EntitySchema

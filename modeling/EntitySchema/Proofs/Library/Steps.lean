import EntitySchema.Directory
import EntitySchema.Proofs.Library.Loading
import Mathlib.Data.List.Perm.Basic

set_option autoImplicit false

namespace EntitySchema

namespace Library

theorem grownBy_get (library after : Library) (entities : List Entity)
    (grown : library.GrownBy entities after) (name : String) (e : Entity)
    (found : library.get? name = some e) : after.get? name = some e := by
  have unknown : entities.find? (·.name == name) = none := by
    apply List.find?_eq_none.mpr
    intro other member
    have fresh := grown.taken.fresh other member
    intro same
    rw [beq_iff_eq.mp same, found] at fresh
    cases fresh
  rw [grown.taken.found, unknown, found]
  rfl

theorem loadListed_grownBy (files : List Listed) (library : Library) :
    ∃ entities, library.GrownBy entities (loadListed files library).1 ∧
      ((loadListed files library).2 = none → library.Builds files entities) := by
  have run := loadListed_run files library
  generalize loadListed files library = outcome at run ⊢
  cases run with
  | loaded entities after built grown => exact ⟨entities, grown, fun _ => built⟩
  | stopped before rest file entities after error split built grown unmoved refused =>
      exact ⟨entities, grown, by simp⟩

theorem definitions_perm (listing : Listing) :
    listing.definitions.Perm (listing.files.filter Listing.isDefinition) :=
  Members.ofList_perm _ (listing.distinct.sublist (List.filter_sublist.map Prod.fst))

theorem definitions_congr (listing other : Listing) (same : listing.files.Perm other.files) :
    listing.definitions = other.definitions :=
  Members.ofList_congr _ _ (listing.distinct.sublist (List.filter_sublist.map Prod.fst))
    (same.filter _)

end Library

namespace Directory

def definitions : Directory → List Listed
  | .absent | .unlistable _ | .interrupted _ => []
  | .listed listing => listing.files.filter Listing.isDefinition

end Directory

namespace Library

theorem loadDirectory_grownBy (library : Library) (directory : Directory) :
    ∃ entities, library.GrownBy entities (library.loadDirectory directory).1 ∧
      ∀ count, (library.loadDirectory directory).2 = .ok count →
        count = entities.length ∧
          ∃ listed, library.Builds directory.definitions listed ∧ listed.Perm entities := by
  cases directory with
  | absent =>
      refine ⟨[], grownBy_nothing library, ?_⟩
      rintro count ⟨⟩
      exact ⟨rfl, [], .nil, .nil⟩
  | unlistable cause => exact ⟨[], grownBy_nothing library, by simp [loadDirectory]⟩
  | interrupted cause => exact ⟨[], grownBy_nothing library, by simp [loadDirectory]⟩
  | listed listing =>
      obtain ⟨entities, grown, complete⟩ := loadListed_grownBy listing.definitions library
      rw [loadDirectory]
      generalize loadListed listing.definitions library = outcome at grown complete ⊢
      obtain ⟨after, failure⟩ := outcome
      cases failure with
      | some fault => exact ⟨entities, grown, by simp⟩
      | none =>
          have built := complete rfl
          have listed := List.perm_comp_forall₂ (definitions_perm listing).symm built
          refine ⟨entities, grown, ?_⟩
          rintro count ⟨⟩
          exact ⟨built.length_eq, listed⟩

theorem refused_register (library : Library) (e : Entity) :
    ((∃ fault, (library.perform (.register e)).2 = .error fault) ↔
        (library.get? e.name).isSome) ∧
      ((∃ fault, (library.perform (.register e)).2 = .error fault) →
        (library.perform (.register e)).1 = library) := by
  by_cases given : (library.get? e.name).isSome <;> simp [perform, register, given]

theorem accepted_load (library : Library) (directory : Directory) (count : Nat)
    (loaded : (library.perform (.load directory)).2 = .ok (.loaded count)) :
    ∃ entities, library.Builds directory.definitions entities ∧
      count = directory.definitions.length ∧
      (library.perform (.load directory)).1.entities.Perm
        (entries entities ++ library.entities) := by
  obtain ⟨entities, grown, counted⟩ := loadDirectory_grownBy library directory
  have accepted : (library.loadDirectory directory).2 = .ok count := by
    simp only [perform] at loaded
    cases outcome : (library.loadDirectory directory).2 with
    | error fault => simp [outcome, Except.map] at loaded
    | ok total => simpa [outcome, Except.map] using loaded
  obtain ⟨total, listed, built, moved⟩ := counted count accepted
  refine ⟨listed, built, by rw [total, ← moved.length_eq, built.length_eq], ?_⟩
  exact grown.stored.trans ((moved.symm.map _).append_right _)

theorem perform_grownBy (library : Library) (step : Step) :
    ∃ entities, library.GrownBy entities (library.perform step).1 := by
  cases step with
  | register e =>
      rw [perform]
      cases outcome : library.register e with
      | ok after => exact ⟨[e], register_grownBy library after e outcome⟩
      | error fault => exact ⟨[], grownBy_nothing library⟩
  | load directory =>
      obtain ⟨entities, grown, -⟩ := loadDirectory_grownBy library directory
      exact ⟨entities, grown⟩

theorem run_grownBy (steps : List Step) (library : Library) :
    ∃ entities, library.GrownBy entities (library.run steps) := by
  induction steps generalizing library with
  | nil => exact ⟨[], grownBy_nothing library⟩
  | cons step rest ih =>
      obtain ⟨entities, first⟩ := perform_grownBy library step
      obtain ⟨others, second⟩ := ih (library.perform step).1
      exact ⟨entities ++ others, grownBy_more library _ _ entities others first second⟩

theorem run_split (library : Library) (before after : List Step) (step : Step) :
    library.run (before ++ step :: after) = (((library.run before).perform step).1).run after := by
  simp [run]

theorem empty_kept (directory : String) (types : TypeRegistry) : (empty directory types).Kept :=
  ⟨by simp [empty], .nil⟩

-- A step in the middle of a run of steps from an empty library: what it finds, what it adds, and
-- what is left of it at the end.
theorem run_steps_keep (directory : String) (types : TypeRegistry) (before after : List Step)
    (step : Step) :
    let reached := (empty directory types).run before
    let next := (reached.perform step).1
    let answer := (reached.perform step).2
    let last := (empty directory types).run (before ++ step :: after)
    (∀ entry ∈ reached.entities, entry.2.name = entry.1) ∧
      (reached.entities.map Prod.fst).Nodup ∧
      (∀ name e, reached.get? name = some e →
        next.get? name = some e ∧ last.get? name = some e) ∧
      (∀ e, step = .register e →
        ((∃ fault, answer = .error fault) ↔ (reached.get? e.name).isSome) ∧
        ((∃ fault, answer = .error fault) → next = reached)) ∧
      (∀ directory count, step = .load directory → answer = .ok (.loaded count) →
        ∃ entities, reached.Builds directory.definitions entities ∧
          count = directory.definitions.length ∧
          next.entities.Perm (entries entities ++ reached.entities)) ∧
      ∀ listing other : Listing, listing.files.Perm other.files →
        reached.perform (.load (.listed listing)) = reached.perform (.load (.listed other)) := by
  intro reached next answer last
  obtain ⟨grownBefore, start⟩ := run_grownBy before (empty directory types)
  have kept : reached.Kept := start.kept (empty_kept directory types)
  obtain ⟨added, grown⟩ := perform_grownBy reached step
  obtain ⟨grownAfter, rest⟩ := run_grownBy after next
  have ends : last = next.run after := run_split _ before after step
  refine ⟨kept.named, (List.pairwise_map.mpr kept.sorted).imp ne_of_lt, ?_, ?_, ?_, ?_⟩
  · intro name e found
    have later := grownBy_get reached next added grown name e found
    rw [ends]
    exact ⟨later, grownBy_get next _ grownAfter rest name e later⟩
  · rintro e rfl
    exact refused_register reached e
  · rintro directory count rfl loaded
    exact accepted_load reached directory count loaded
  · intro listing other same
    simp only [perform, loadDirectory, definitions_congr listing other same]

end Library

def tagsListing : Listing := .ofFolder (correctedFolder ++ [("notes.txt", "")]) (by decide +kernel)

theorem tagsListing_loaded :
    ∃ entities, emptyLibrary.Builds (Directory.listed tagsListing).definitions entities ∧
      2 = (Directory.listed tagsListing).definitions.length ∧
      (emptyLibrary.perform (.load (.listed tagsListing))).1.entities.Perm
        (Library.entries entities ++ emptyLibrary.entities) := by
  have counted : (emptyLibrary.loadDirectory (.listed tagsListing)).2.toOption = some 2 := by
    decide +kernel
  have loaded : (emptyLibrary.perform (.load (.listed tagsListing))).2 = .ok (.loaded 2) := by
    rw [Library.perform]
    cases outcome : (emptyLibrary.loadDirectory (.listed tagsListing)).2 with
    | error fault => simp [outcome, Except.toOption] at counted
    | ok total => simpa [outcome, Except.toOption, Except.map] using counted
  have kept := Library.run_steps_keep "schemas" (.builtin .standard) [] []
    (.load (.listed tagsListing))
  exact kept.2.2.2.2.1 (.listed tagsListing) 2 rfl loaded

end EntitySchema

import EntitySchema.Directory
import EntitySchema.Proofs.Json.Members
import EntitySchema.Proofs.Outcome

/-!
# Loading definitions

A load takes up the definitions of a folder one after the other and stops at the first that it
cannot take up. What it has taken up by then stays in the library, so a load that has failed can be
repeated only if it failed at its first file.
-/

set_option autoImplicit false

namespace EntitySchema

namespace Library

structure TakesUp (library : Library) (entities : List Entity) (after : Library) : Prop where
  directory : after.directory = library.directory
  types : after.types = library.types
  found : ∀ name, after.get? name = (entities.find? (·.name == name)).or (library.get? name)
  distinct : (entities.map Entity.name).Nodup
  fresh : ∀ e ∈ entities, library.get? e.name = none

theorem takesUp_nothing (library : Library) : library.TakesUp [] library :=
  ⟨rfl, rfl, fun _ => rfl, .nil, by simp⟩

theorem register_inserts (library after : Library) (e : Entity)
    (accepted : library.register e = .ok after) :
    library.get? e.name = none ∧
      after = { library with entities := Members.insert e.name e library.entities } := by
  by_cases given : (library.get? e.name).isSome = true
  · rw [register, if_pos given] at accepted
    cases accepted
  · rw [register, if_neg given] at accepted
    cases accepted
    exact ⟨by simpa using given, rfl⟩

theorem register_takesUp (library after : Library) (e : Entity)
    (accepted : library.register e = .ok after) : library.TakesUp [e] after := by
  obtain ⟨unknown, rfl⟩ := register_inserts library after e accepted
  refine ⟨rfl, rfl, ?_, by simp, by simpa using unknown⟩
  intro name
  rw [get?, lookup_insert, get?]
  by_cases same : name = e.name
  · simp [same]
  · simp [same, Ne.symm same]

theorem takesUp_more (library middle after : Library) (entities others : List Entity)
    (first : library.TakesUp entities middle) (second : middle.TakesUp others after) :
    library.TakesUp (entities ++ others) after := by
  have unknown : ∀ e ∈ others, entities.find? (·.name == e.name) = none ∧
      library.get? e.name = none := by
    intro e member
    have fresh := second.fresh e member
    rw [first.found] at fresh
    exact Option.or_eq_none_iff.mp fresh
  refine ⟨second.directory.trans first.directory, second.types.trans first.types, ?_, ?_, ?_⟩
  · intro name
    rw [second.found, first.found, List.find?_append]
    cases later : others.find? (·.name == name) with
    | none => simp
    | some e =>
        obtain ⟨member, same⟩ : e ∈ others ∧ e.name = name :=
          ⟨List.mem_of_find?_eq_some later, by simpa using List.find?_some later⟩
        simp [← same, (unknown e member).1]
  · rw [List.map_append, List.nodup_append]
    refine ⟨first.distinct, second.distinct, ?_⟩
    intro name inFirst other inSecond same
    obtain ⟨e, member, named⟩ := List.mem_map.mp inFirst
    obtain ⟨e', member', named'⟩ := List.mem_map.mp inSecond
    have missing := List.find?_eq_none.mp (unknown e' member').1 e member
    simp [named, named', same] at missing
  · intro e member
    rcases List.mem_append.mp member with inFirst | inSecond
    · exact first.fresh e inFirst
    · exact (unknown e inSecond).2

structure Kept (library : Library) : Prop where
  named : ∀ entry ∈ library.entities, entry.2.name = entry.1
  sorted : Members.Sorted library.entities

def entries (entities : List Entity) : List (String × Entity) := entities.map fun e => (e.name, e)

structure GrownBy (library : Library) (entities : List Entity) (after : Library) : Prop where
  taken : library.TakesUp entities after
  kept : library.Kept → after.Kept
  stored : after.entities.Perm (entries entities ++ library.entities)

theorem grownBy_nothing (library : Library) : library.GrownBy [] library :=
  ⟨takesUp_nothing library, id, .refl _⟩

theorem fresh_of_get (library : Library) (name : String) (fresh : library.get? name = none) :
    name ∉ library.entities.map Prod.fst := by
  intro member
  obtain ⟨⟨name', e⟩, inside, same⟩ := List.mem_map.mp member
  obtain rfl : name' = name := same
  have missing := List.lookup_eq_none_iff.mp fresh (name', e) inside
  simp at missing

theorem register_grownBy (library after : Library) (e : Entity)
    (accepted : library.register e = .ok after) : library.GrownBy [e] after := by
  have taken := register_takesUp library after e accepted
  obtain ⟨unknown, rfl⟩ := register_inserts library after e accepted
  refine ⟨taken, ?_, Members.insert_perm _ _ _ (fresh_of_get library e.name unknown)⟩
  intro kept
  refine ⟨?_, Members.insert_sorted _ _ _ kept.sorted⟩
  intro entry member
  rcases Members.mem_insert _ _ _ _ member with same | earlier
  · rw [same]
  · exact kept.named entry earlier

theorem grownBy_more (library middle after : Library) (entities others : List Entity)
    (first : library.GrownBy entities middle) (second : middle.GrownBy others after) :
    library.GrownBy (entities ++ others) after := by
  refine ⟨takesUp_more library middle after entities others first.taken second.taken,
    second.kept ∘ first.kept, ?_⟩
  have regrouped : (entries others ++ (entries entities ++ library.entities)).Perm
      (entries (entities ++ others) ++ library.entities) := by
    simp only [entries, List.map_append, List.append_assoc]
    exact List.perm_append_comm_assoc _ _ _
  exact second.stored.trans ((first.stored.append_left (entries others)).trans regrouped)

theorem buildListed_takesUp (library after : Library) (entities : List Entity)
    (taken : library.TakesUp entities after) (file : Listed) :
    after.buildListed file = library.buildListed file := by
  obtain ⟨name, content⟩ := file
  cases content <;> simp only [buildListed, build, taken.directory, taken.types]

def Builds (library : Library) (files : List Listed) (entities : List Entity) : Prop :=
  List.Forall₂ (fun file e => library.buildListed file = .ok e) files entities

-- What a run over files comes to: all of them are taken up, or those before the first that is
-- refused by what the library has become.
inductive Run (library : Library) (files : List Listed) : Library × Option SchemaError → Prop where
  | loaded (entities : List Entity) (after : Library) (built : library.Builds files entities)
      (grown : library.GrownBy entities after) : Run library files (after, none)
  | stopped (before rest : List Listed) (file : Listed) (entities : List Entity) (after : Library)
      (error : SchemaError) (split : files = before ++ file :: rest)
      (built : library.Builds before entities) (grown : library.GrownBy entities after)
      (unmoved : before = [] → after = library)
      (refused : after.buildListed file >>= after.register = .error error) :
      Run library files (after, some error)

theorem loadListed_run (files : List Listed) (library : Library) :
    library.Run files (loadListed files library) := by
  induction files generalizing library with
  | nil => exact .loaded [] library .nil (grownBy_nothing library)
  | cons file rest ih =>
      rw [loadListed]
      cases step : library.buildListed file >>= library.register with
      | error error =>
          exact .stopped [] rest file [] library error rfl .nil (grownBy_nothing library) (fun _ => rfl) step
      | ok next =>
          obtain ⟨e, builtFirst, registered⟩ := (bind_ok_iff _ _ _).mp step
          have first := register_grownBy library next e registered
          have same := buildListed_takesUp library next [e] first.taken
          have continued := ih next
          dsimp only
          generalize loadListed rest next = outcome at continued ⊢
          cases continued with
          | loaded entities after built grown =>
              refine .loaded (e :: entities) after (.cons builtFirst ?_)
                (grownBy_more library next after [e] entities first grown)
              simpa only [Builds, same] using built
          | stopped before others offending entities after error split built grown unmoved refused =>
              refine .stopped (file :: before) others offending (e :: entities) after error
                (by rw [split]; rfl) (.cons builtFirst ?_)
                (grownBy_more library next after [e] entities first grown) (fun none => nomatch none)
                refused
              simpa only [Builds, same] using built

structure Loadable (library : Library) (files : List Listed) : Prop where
  each : ∀ file ∈ files, ∃ e, library.buildListed file = .ok e ∧ library.get? e.name = none
  distinct : files.Pairwise fun file other => ∀ e e', library.buildListed file = .ok e →
    library.buildListed other = .ok e' → e.name ≠ e'.name

theorem forall₂_member {α β : Type} (r : α → β → Prop) (values : List α) (results : List β)
    (steps : List.Forall₂ r values results) :
    (∀ value ∈ values, ∃ result ∈ results, r value result) ∧
      ∀ result ∈ results, ∃ value ∈ values, r value result := by
  induction steps with
  | nil => simp
  | cons step _ ih =>
      constructor
      · intro value member
        rcases List.mem_cons.mp member with same | later
        · exact ⟨_, List.mem_cons_self, same ▸ step⟩
        · obtain ⟨result, inRest, related⟩ := ih.1 value later
          exact ⟨result, List.mem_cons_of_mem _ inRest, related⟩
      · intro result member
        rcases List.mem_cons.mp member with same | later
        · exact ⟨_, List.mem_cons_self, same ▸ step⟩
        · obtain ⟨value, inRest, related⟩ := ih.2 result later
          exact ⟨value, List.mem_cons_of_mem _ inRest, related⟩

theorem loadable_of_distinct (library : Library) (files : List Listed)
    (entities : List Entity) (built : library.Builds files entities)
    (distinct : (entities.map Entity.name).Nodup)
    (fresh : ∀ e ∈ entities, library.get? e.name = none) : library.Loadable files := by
  induction built with
  | nil => exact ⟨by simp, .nil⟩
  | @cons file e files entities step steps ih =>
      rw [List.map_cons, List.nodup_cons] at distinct
      have tail := ih distinct.2 fun other member => fresh other (List.mem_cons_of_mem _ member)
      constructor
      · intro other member
        rcases List.mem_cons.mp member with same | later
        · exact ⟨e, same ▸ step, fresh e List.mem_cons_self⟩
        · exact tail.each other later
      · refine List.pairwise_cons.mpr ⟨?_, tail.distinct⟩
        intro other later a b first second same
        obtain ⟨e', member, built'⟩ := (forall₂_member _ _ _ steps).1 other later
        obtain rfl : e = a := by simpa [step] using first
        obtain rfl : e' = b := by simpa [built'] using second
        exact distinct.1 (same ▸ List.mem_map_of_mem member)

theorem register_fresh (library : Library) (e : Entity) (fresh : library.get? e.name = none) :
    ∃ after, library.register e = .ok after := by
  simp [register, fresh]

theorem register_repeated (library : Library) (e other : Entity)
    (given : library.get? e.name = some other) :
    library.register e = .error (.malformed e.name .registered) := by
  simp [register, given]

theorem loadListed_iff (library : Library) (files : List Listed) :
    (loadListed files library).2 = none ↔ library.Loadable files := by
  have run := loadListed_run files library
  generalize loadListed files library = outcome at run ⊢
  cases run with
  | loaded entities after built grown =>
      simp [loadable_of_distinct library files entities built grown.taken.distinct grown.taken.fresh]
  | stopped before rest file entities after error split built grown unmoved refused =>
      simp only [reduceCtorEq, false_iff]
      intro loadable
      obtain ⟨e, builtFile, fresh⟩ := loadable.each file (by simp [split])
      have names : (before ++ file :: rest).Pairwise _ := split ▸ loadable.distinct
      have missing : entities.find? (·.name == e.name) = none := by
        apply List.find?_eq_none.mpr
        intro other member
        obtain ⟨earlier, inBefore, builtEarlier⟩ := (forall₂_member _ _ _ built).2 other member
        have differs := (List.pairwise_append.mp names).2.2 earlier inBefore file (by simp) other e
          builtEarlier builtFile
        simpa using differs
      have unknown : after.get? e.name = none := by rw [grown.taken.found, missing, fresh]; rfl
      obtain ⟨next, accepted⟩ := register_fresh after e unknown
      rw [buildListed_takesUp library after entities grown.taken, builtFile] at refused
      cases accepted.symm.trans refused

theorem loadDirectory_refused_iff (library after : Library) (listing : Listing) (error : SchemaError) :
    library.loadDirectory (.listed listing) = (after, .error error) ↔
      loadListed listing.definitions library = (after, some error) := by
  rw [loadDirectory]
  obtain ⟨left, failure⟩ := loadListed listing.definitions library
  cases failure <;> simp

theorem loadDirectory_accepted_iff (library : Library) (listing : Listing) :
    (∃ count, (library.loadDirectory (.listed listing)).2 = .ok count) ↔
      library.Loadable listing.definitions := by
  rw [← loadListed_iff, loadDirectory]
  obtain ⟨left, failure⟩ := loadListed listing.definitions library
  cases failure <;> simp

theorem loadListed_texts (files : Folder) (library : Library) :
    loadListed (files.map fun (name, text) => (name, .ok text)) library =
      loadFiles files library := by
  induction files generalizing library with
  | nil => rfl
  | cons file rest ih =>
      have read : library.buildListed (file.1, .ok file.2) = library.build file := rfl
      simp only [List.map_cons, loadListed, loadFiles, read]
      cases library.build file >>= library.register with
      | error fault => rfl
      | ok after => exact ih after

theorem loadDirectory_ofFolder (library : Library) (folder : Folder)
    (distinct : (folder.map Prod.fst).Nodup) :
    library.loadDirectory (.listed (.ofFolder folder distinct)) = library.load (some folder) := by
  have texts : (Listing.ofFolder folder distinct).definitions =
      folder.definitions.map fun (name, text) => (name, .ok text) := by
    rw [Folder.definitions, Members.ofList_map, Listing.definitions, Listing.ofFolder,
      List.filter_map]
    rfl
  cases outcome : loadFiles folder.definitions library with
  | mk after failure =>
      cases failure <;> simp [loadDirectory, load, texts, loadListed_texts, outcome]

-- The name that the first file has been given already is refused before anything else is looked at.
theorem loadDirectory_again (library after : Library) (e : Entity) (entities : List Entity)
    (file : Listed) (rest : List Listed) (listing : Listing)
    (order : listing.definitions = file :: rest) (built : library.buildListed file = .ok e)
    (taken : library.TakesUp (e :: entities) after) :
    after.loadDirectory (.listed listing) = (after, .error (.malformed e.name .registered)) := by
  have given : after.get? e.name = some e := by simp [taken.found]
  have again : after.buildListed file >>= after.register = .error (.malformed e.name .registered) := by
    rw [buildListed_takesUp library after _ taken, built]
    exact register_repeated after e e given
  rw [loadDirectory_refused_iff, order, loadListed, again]

-- A load that fails at a file keeps what the files before it define. Only if there are none is the next
-- one, when the file has been corrected, a load of the corrected directory by itself; otherwise the name
-- of the first file has been given already.
theorem failed_load_keeps_earlier (library after : Library) (directory : Directory)
    (error : SchemaError) (failed : library.loadDirectory directory = (after, .error error)) :
    (∀ folder distinct, directory = .listed (.ofFolder folder distinct) →
      library.load (some folder) = (after, .error error)) ∧
    ((∀ listing, directory ≠ .listed listing) → after = library) ∧
    ∀ listing, directory = .listed listing →
      ∃ (before rest : List Listed) (file : Listed) (entities : List Entity),
        listing.definitions = before ++ file :: rest ∧
        library.Builds before entities ∧
        library.TakesUp entities after ∧
        after.buildListed file >>= after.register = .error error ∧
        (before = [] → after = library) ∧
        ((∀ name, after.get? name = library.get? name) ↔ before = []) ∧
        ∀ (corrected : Listing) (content : Except ReadFault String),
          corrected.definitions = before ++ (file.1, content) :: rest →
            ((∃ count, (after.loadDirectory (.listed corrected)).2 = .ok count) ↔
              before = [] ∧ library.Loadable corrected.definitions) ∧
            (before ≠ [] → ∃ e, entities.head? = some e ∧
              after.loadDirectory (.listed corrected) = (after, .error (.malformed e.name .registered))) := by
  refine ⟨?_, ?_, ?_⟩
  · intro folder distinct texts
    rw [← loadDirectory_ofFolder library folder distinct, ← texts, failed]
  · intro unlisted
    cases directory with
    | absent => cases failed
    | unlistable cause => cases failed; rfl
    | interrupted cause => cases failed; rfl
    | listed listing => exact absurd rfl (unlisted listing)
  · rintro listing rfl
    have run := loadListed_run listing.definitions library
    rw [(loadDirectory_refused_iff library after listing error).mp failed] at run
    cases run with
    | stopped before rest file entities _ _ split built grown unmoved refused =>
        have taken := grown.taken
        refine ⟨before, rest, file, entities, split, built, taken, refused, unmoved, ?_⟩
        cases built with
        | nil =>
            cases unmoved rfl
            refine ⟨by simp, ?_⟩
            intro corrected content shape
            rw [loadDirectory_accepted_iff]
            simp
        | @cons first e others more step steps =>
            have again : ∀ (corrected : Listing) (content : Except ReadFault String),
                corrected.definitions = first :: others ++ (file.1, content) :: rest →
                  after.loadDirectory (.listed corrected) =
                    (after, .error (.malformed e.name .registered)) :=
              fun corrected content shape => loadDirectory_again library after e more first _ corrected shape step taken
            refine ⟨?_, ?_⟩
            · simp only [reduceCtorEq, iff_false]
              intro unchanged
              have given : after.get? e.name = some e := by simp [taken.found]
              have unknown : library.get? e.name = none := taken.fresh e List.mem_cons_self
              cases given.symm.trans ((unchanged e.name).trans unknown)
            · intro corrected content shape
              simp [again corrected content shape]

end Library

def authorsText : String := "\x7b\"name\": \"authors\", \"properties\": []\x7d"

def tagsText : String := "\x7b\"name\": \"tags\", \"properties\": []\x7d"

def draftFolder : Folder := [("tags.json", "\x7b"), ("authors.json", authorsText)]

def correctedFolder : Folder := [("tags.json", tagsText), ("authors.json", authorsText)]

def draftListing : Listing := .ofFolder draftFolder (by decide +kernel)

def correctedListing : Listing := .ofFolder correctedFolder (by decide +kernel)

def emptyLibrary : Library := .empty "schemas" (.builtin .standard)

theorem draftListing_keeps_earlier :
    ∃ after error, emptyLibrary.loadDirectory (.listed draftListing) = (after, .error error) ∧
      ∃ before rest file entities, draftListing.definitions = before ++ file :: rest ∧
        before ≠ [] ∧ emptyLibrary.TakesUp entities after ∧
        after.buildListed file >>= after.register = .error error ∧
        ∃ content e, correctedListing.definitions = before ++ (file.1, content) :: rest ∧
          entities.head? = some e ∧
          after.loadDirectory (.listed correctedListing) =
            (after, .error (.malformed e.name .registered)) := by
  obtain ⟨error, refused⟩ := error_of_isOk (emptyLibrary.loadDirectory (.listed draftListing)).2
    (by decide +kernel)
  have failed : emptyLibrary.loadDirectory (.listed draftListing) =
      ((emptyLibrary.loadDirectory (.listed draftListing)).1, .error error) := Prod.ext rfl refused
  obtain ⟨_, _, stopped⟩ := Library.failed_load_keeps_earlier emptyLibrary _ _ error failed
  obtain ⟨before, rest, file, entities, split, _, taken, offending, _, unchanged, retry⟩ :=
    stopped draftListing rfl
  have grown : before ≠ [] := by
    intro first
    have same := congrArg Option.isSome (unchanged.mpr first "authors")
    revert same
    decide +kernel
  have draft : draftListing.definitions = [("authors.json", .ok authorsText), ("tags.json", .ok "\x7b")] := rfl
  have corrected : correctedListing.definitions =
      [("authors.json", .ok authorsText), ("tags.json", .ok tagsText)] := rfl
  have shape : correctedListing.definitions = before ++ (file.1, .ok tagsText) :: rest := by
    rw [draft] at split
    rw [corrected]
    cases before with
    | nil => exact absurd rfl grown
    | cons first others =>
        cases others with
        | nil =>
            simp only [List.cons_append, List.nil_append, List.cons.injEq] at split ⊢
            exact ⟨split.1, by rw [← split.2.1], split.2.2⟩
        | cons second more => simp at split
  obtain ⟨e, head, again⟩ := (retry correctedListing _ shape).2 grown
  exact ⟨_, error, failed, before, rest, file, entities, split, grown, taken, offending, _, e, shape,
    head, again⟩

theorem failed_load_not_undone :
    (emptyLibrary.loadDirectory (.listed draftListing)).2.isOk = false ∧
      emptyLibrary.names = [] ∧
      (emptyLibrary.loadDirectory (.listed draftListing)).1.names = ["authors"] ∧
      (emptyLibrary.loadDirectory (.listed correctedListing)).2.isOk = true ∧
      ((emptyLibrary.loadDirectory (.listed draftListing)).1.loadDirectory
        (.listed correctedListing)).2.isOk = false := by
  decide +kernel

end EntitySchema

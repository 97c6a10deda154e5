import EntitySchema.Entity.Operation

set_option autoImplicit false

namespace EntitySchema

theorem find_letters_iff {α : Type} (name : α → String) (all : List α) (listed : ∀ a, a ∈ all)
    (apart : ∀ a b, (name a).toList.map Char.toLower = (name b).toList.map Char.toLower → a = b)
    (spelled : String) (a : α) :
    (all.find? fun b => sameLetters (name b) spelled) = some a ↔
      sameLetters (name a) spelled = true := by
  constructor
  · intro found
    have same := List.find?_some found
    exact same
  · intro same
    cases found : all.find? fun b => sameLetters (name b) spelled with
    | none => exact absurd same (List.find?_eq_none.mp found a (listed a))
    | some b =>
        have otherSame := List.find?_some found
        simp only [sameLetters, beq_iff_eq] at same otherSame
        exact congrArg some (apart b a (otherSame.trans same.symm))

theorem verb_of_letters (v w : Verb)
    (same : v.name.toList.map Char.toLower = w.name.toList.map Char.toLower) : v = w := by
  cases v <;> cases w <;> first | rfl | exact absurd same (by decide)

theorem operation_of_letters (op other : Operation)
    (same : op.name.toList.map Char.toLower = other.name.toList.map Char.toLower) : op = other := by
  cases op <;> cases other <;> first | rfl | exact absurd same (by decide)

theorem verb_parse_iff (spelled : String) (verb : Verb) :
    Verb.parse? spelled = some verb ↔ sameLetters verb.name spelled = true :=
  find_letters_iff Verb.name Verb.all (by intro v; cases v <;> simp [Verb.all]) verb_of_letters
    spelled verb

theorem operation_parse_iff (spelled : String) (op : Operation) :
    Operation.parse? spelled = some op ↔ sameLetters op.name spelled = true :=
  find_letters_iff Operation.name Operation.all (by intro op; cases op <;> simp [Operation.all])
    operation_of_letters spelled op

theorem shared_letters (verb : Verb) (op : Operation) :
    verb.name.toList.map Char.toLower = op.name.toList.map Char.toLower ↔
      verb = .delete ∧ op = .delete := by
  cases verb <;> cases op <;> decide

-- Verbs are looked for first, so the name that is both is taken for the verb.
theorem intent_of_operation (spelled : String) (op : Operation)
    (named : Operation.parse? spelled = some op) :
    Intent.parse? spelled = some (if op = .delete then .ofVerb .delete else .ofOperation op) := by
  have letters := (operation_parse_iff spelled op).mp named
  simp only [sameLetters, beq_iff_eq] at letters
  by_cases both : op = .delete
  · subst both
    have verb : Verb.parse? spelled = some .delete := by
      rw [verb_parse_iff, sameLetters, beq_iff_eq]
      exact ((shared_letters .delete .delete).mpr ⟨rfl, rfl⟩).trans letters
    simp [Intent.parse?, verb]
  · have unverbal : Verb.parse? spelled = none := by
      cases parsed : Verb.parse? spelled with
      | none => rfl
      | some verb =>
          have verbLetters := (verb_parse_iff spelled verb).mp parsed
          simp only [sameLetters, beq_iff_eq] at verbLetters
          exact absurd ((shared_letters verb op).mp (verbLetters.trans letters.symm)).2 both
    simp [Intent.parse?, unverbal, named, both]

end EntitySchema

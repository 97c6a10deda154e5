import EntitySchema.Proofs.Text.LetterCase
import EntitySchema.Record.DeepTrim
import EntitySchema.Record.Normalizer

set_option autoImplicit false

namespace EntitySchema

namespace Normalizer

theorem capitalizeText_chars (s : String) :
    capitalizeText s = String.ofList (LetterCase.capitalize s.toList) := by
  rw [capitalizeText]
  cases s.toList <;> rfl

theorem alphanum_small (c : Char) (kept : c.isAlphanum = true) : c.toNat < 128 := by
  unfold Char.isAlphanum Char.isAlpha Char.isUpper Char.isLower Char.isDigit at kept
  simp only [ge_iff_le, UInt32.le_iff_toNat_le, Bool.or_eq_true, Bool.and_eq_true,
    decide_eq_true_eq] at kept
  have bounds : 'Z'.val.toNat < 128 ∧ 'z'.val.toNat < 128 ∧ '9'.val.toNat < 128 := by decide
  change c.val.toNat < 128
  omega

theorem alphanum_lower (c : Char) (kept : c.isAlphanum = true) :
    c.toLower.isAlphanum = true ∧ c.toLower.toLower = c.toLower ∧ Blank.isBlank c.toLower = false :=
  ascii_forall
    (fun c => c.isAlphanum = true →
      c.toLower.isAlphanum = true ∧ c.toLower.toLower = c.toLower ∧ Blank.isBlank c.toLower = false)
    (by decide +kernel) c (alphanum_small c kept) kept

-- By induction on the text: a gap is written as a hyphen, which is read as that gap again.
theorem slugChars_again (text : List Char) (inside gap : Bool) :
    slugChars inside false (slugChars inside gap text) = slugChars inside gap text := by
  induction text generalizing inside gap with
  | nil => rfl
  | cons c rest ih =>
      rw [slugChars]
      by_cases kept : c.isAlphanum = true
      · obtain ⟨alphanum, lower, _⟩ := alphanum_lower c kept
        have later := ih true false
        rw [if_pos kept]
        by_cases hyphen : (inside && gap) = true
        · have started : inside = true := (Bool.and_eq_true _ _ ▸ hyphen).1
          have dash : '-'.isAlphanum = false := by decide
          rw [if_pos hyphen, List.singleton_append, slugChars, if_neg (by simp [dash]), slugChars,
            if_pos alphanum, started, lower, later]
          rfl
        · rw [if_neg hyphen, List.nil_append, slugChars, if_pos alphanum, lower, later, Bool.and_false]
          rfl
      · rw [if_neg kept]
        exact ih inside true

theorem slugChars_bare (text : List Char) (inside gap : Bool) (d : Char)
    (member : d ∈ slugChars inside gap text) : Blank.isBlank d = false := by
  induction text generalizing inside gap with
  | nil => cases member
  | cons c rest ih =>
      rw [slugChars] at member
      by_cases kept : c.isAlphanum = true
      · rw [if_pos kept] at member
        rcases List.mem_append.mp member with hyphen | later
        · split at hyphen
          · rw [List.mem_singleton.mp hyphen]
            decide
          · cases hyphen
        · rcases List.mem_cons.mp later with same | later
          · exact same ▸ (alphanum_lower c kept).2.2
          · exact ih true false later
      · rw [if_neg kept] at member
        exact ih inside true member

theorem slugifyText_again (s : String) : slugifyText (slugifyText s) = slugifyText s := by
  rw [slugifyText, slugifyText, String.toList_ofList, slugChars_again]

theorem roundNumber_again (n : JsonNumber) : roundNumber (roundNumber n) = roundNumber n := by
  cases n with
  | whole n fits => rfl
  | real x =>
      by_cases signed : -0x8000000000000000 < x.roundAway ∧ x.roundAway < 0x8000000000000000
      · simp [roundNumber, signed]
      · simp [roundNumber, signed]

def Settles : Normalizer → Json → Prop
  | .capitalize, .string s => ∀ c ∈ s.toList.head?, LetterCase.RisesOnce c
  | _, _ => True

theorem onText_again (f : String → String) (again : ∀ s, f (f s) = f s) (value : Json) :
    onText f (onText f value) = onText f value := by
  cases value with
  | string s => exact congrArg Json.string (again s)
  | _ => rfl

theorem apply_again (n : Normalizer) (value : Json) :
    n.apply (n.apply value) = n.apply value ↔ n.Settles value := by
  cases n with
  | lowercase => exact iff_of_true (onText_again _ LetterCase.lower_lower value) (by simp [Settles])
  | uppercase => exact iff_of_true (onText_again _ LetterCase.upper_upper value) (by simp [Settles])
  | trim => exact iff_of_true (onText_again _ Blank.trim_trim value) (by simp [Settles])
  | slugify => exact iff_of_true (onText_again _ slugifyText_again value) (by simp [Settles])
  | round =>
      refine iff_of_true ?_ (by simp [Settles])
      cases value with
      | number x => exact congrArg Json.number (roundNumber_again x)
      | _ => rfl
  | capitalize =>
      cases value with
      | string s =>
          simp only [apply, onText, Json.string.injEq, capitalizeText_chars, String.toList_ofList,
            String.ofList_inj]
          exact LetterCase.capitalize_twice s.toList
      | _ => exact iff_of_true rfl (by simp [Settles])

theorem apply_bare (n : Normalizer) (s : String) (bare : Blank.Bare s.toList) :
    ∃ t, n.apply (.string s) = .string t ∧ Blank.Bare t.toList := by
  cases n with
  | lowercase =>
      refine ⟨_, rfl, ?_⟩
      rw [LetterCase.lower, String.toList_ofList]
      exact (LetterCase.Recast.lowerFrom s.toList []).bare _ _ bare
  | uppercase =>
      refine ⟨_, rfl, ?_⟩
      rw [LetterCase.upper, String.toList_ofList]
      exact (LetterCase.Recast.flatMap _ LetterCase.upperChar_ne_nil LetterCase.upperChar_bare _).bare _ _ bare
  | capitalize =>
      refine ⟨_, rfl, ?_⟩
      rw [capitalizeText_chars, String.toList_ofList]
      exact (LetterCase.Recast.capitalize s.toList).bare _ _ bare
  | trim => exact ⟨_, rfl, by rwa [(Blank.trim_eq_iff s).mpr bare]⟩
  | slugify =>
      refine ⟨_, rfl, ?_⟩
      rw [slugifyText, String.toList_ofList]
      exact Blank.bare_of_all _ (slugChars_bare s.toList false false)
  | round => exact ⟨s, rfl, bare⟩

end Normalizer

namespace DeepTrim

variable (limits : SanitizeLimits)

mutual
theorem trimAt_again (depth : Nat) (value : Json) :
    trimAt limits depth (trimAt limits depth value) = trimAt limits depth value := by
  cases value with
  | string s => exact congrArg Json.string (Blank.trim_trim s)
  | array items =>
      by_cases deep : limits.maxDepth ≤ depth
      · simp [trimAt, deep]
      · simp [trimAt, deep, trimItems_again (depth + 1) items]
  | object members =>
      by_cases deep : limits.maxDepth ≤ depth
      · simp [trimAt, deep]
      · simp [trimAt, deep, trimMembers_again (depth + 1) members]
  | _ => rfl

theorem trimItems_again (depth : Nat) (items : List Json) :
    trimItems limits depth (trimItems limits depth items) = trimItems limits depth items := by
  cases items with
  | nil => rfl
  | cons item rest => rw [trimItems, trimItems, trimAt_again depth item, trimItems_again depth rest]

theorem trimMembers_again (depth : Nat) (members : List (String × Json)) :
    trimMembers limits depth (trimMembers limits depth members) = trimMembers limits depth members := by
  cases members with
  | nil => rfl
  | cons member rest =>
      obtain ⟨key, value⟩ := member
      rw [trimMembers, trimMembers, trimMembers_again depth rest]
      by_cases allowed : limits.allows key = true
      · simp [allowed, trimAt_again depth value]
      · simp [allowed]
end

end DeepTrim

theorem deepTrim_again (limits : SanitizeLimits) (value : Json) :
    deepTrim limits (deepTrim limits value) = deepTrim limits value :=
  DeepTrim.trimAt_again limits 0 value

theorem deepTrim_apply (limits : SanitizeLimits) (n : Normalizer) (value : Json) :
    deepTrim limits (n.apply (deepTrim limits value)) = n.apply (deepTrim limits value) := by
  have again := deepTrim_again limits value
  generalize deepTrim limits value = trimmed at again
  cases trimmed with
  | string s =>
      have bare := (Blank.trim_eq_iff s).mp (Json.string.inj again)
      obtain ⟨t, made, bare⟩ := n.apply_bare s bare
      rw [made]
      exact congrArg Json.string ((Blank.trim_eq_iff t).mpr bare)
  | number x => cases n <;> rfl
  | _ => cases n <;> exact again

end EntitySchema

import EntitySchema.Filter.Interpretation
import Mathlib.Data.List.Infix

/-!
# Patterns of LIKE

What a pattern matches, as SQL has it with the backslash as its escape character, and a matcher that
tries the texts a percent sign may stand for one after the other. The pattern that is made of a text
matches what begins with the text, ends with it or holds it, whatever characters the text has.
-/

set_option autoImplicit false

namespace EntitySchema

open Interpretation

namespace Sql

inductive Like : List Char → List Char → Prop where
  | done : Like [] []
  | any (passed : List Char) {pattern text : List Char} (rest : Like pattern text) :
      Like ('%' :: pattern) (passed ++ text)
  | one (c : Char) {pattern text : List Char} (rest : Like pattern text) :
      Like ('_' :: pattern) (c :: text)
  | escaped (c : Char) {pattern text : List Char} (rest : Like pattern text) :
      Like ('\\' :: c :: pattern) (c :: text)
  | plain (c : Char) {pattern text : List Char} (notAny : c ≠ '%') (notOne : c ≠ '_')
      (notEscape : c ≠ '\\') (rest : Like pattern text) : Like (c :: pattern) (c :: text)

-- A backslash that ends a pattern escapes nothing, and the pattern matches nothing.
def like : List Char → List Char → Bool
  | [], text => text.isEmpty
  | '%' :: pattern, text => text.tails.any fun behind => like pattern behind
  | _ :: _, [] => false
  | '_' :: pattern, _ :: text => like pattern text
  | ['\\'], _ :: _ => false
  | '\\' :: c :: pattern, d :: text => c = d && like pattern text
  | c :: pattern, d :: text => c = d && like pattern text

theorem like_nil_iff (text : List Char) : Like [] text ↔ text = [] := by
  constructor
  · rintro ⟨⟩
    rfl
  · rintro rfl
    exact .done

theorem like_any_iff (pattern text : List Char) :
    Like ('%' :: pattern) text ↔ ∃ behind, behind <:+ text ∧ Like pattern behind := by
  constructor
  · intro matched
    cases matched with
    | any passed rest => exact ⟨_, List.suffix_append passed _, rest⟩
    | plain _ notAny => exact absurd rfl notAny
  · rintro ⟨behind, ⟨passed, rfl⟩, rest⟩
    exact .any passed rest

theorem like_one_iff (pattern text : List Char) :
    Like ('_' :: pattern) text ↔ ∃ c behind, text = c :: behind ∧ Like pattern behind := by
  constructor
  · intro matched
    cases matched with
    | one c rest => exact ⟨c, _, rfl, rest⟩
    | plain _ _ notOne => exact absurd rfl notOne
  · rintro ⟨c, behind, rfl, rest⟩
    exact .one c rest

theorem like_escaped_iff (c : Char) (pattern text : List Char) :
    Like ('\\' :: c :: pattern) text ↔ ∃ behind, text = c :: behind ∧ Like pattern behind := by
  constructor
  · intro matched
    cases matched with
    | escaped _ rest => exact ⟨_, rfl, rest⟩
    | plain _ _ _ notEscape => exact absurd rfl notEscape
  · rintro ⟨behind, rfl, rest⟩
    exact .escaped c rest

theorem not_like_escape (text : List Char) : ¬Like ['\\'] text := by
  intro matched
  cases matched with
  | plain _ _ _ notEscape => exact notEscape rfl

theorem like_plain_iff (c : Char) (notAny : c ≠ '%') (notOne : c ≠ '_') (notEscape : c ≠ '\\')
    (pattern text : List Char) :
    Like (c :: pattern) text ↔ ∃ behind, text = c :: behind ∧ Like pattern behind := by
  constructor
  · intro matched
    cases matched with
    | any => exact absurd rfl notAny
    | one => exact absurd rfl notOne
    | escaped => exact absurd rfl notEscape
    | plain _ _ _ _ rest => exact ⟨_, rfl, rest⟩
  · rintro ⟨behind, rfl, rest⟩
    exact .plain c notAny notOne notEscape rest

theorem not_like_nil (c : Char) (pattern : List Char) (notAny : c ≠ '%') :
    ¬Like (c :: pattern) [] := by
  intro matched
  generalize whole : ([] : List Char) = text at matched
  cases matched with
  | any => exact notAny rfl
  | _ => cases whole

theorem first_same_iff (c d : Char) (pattern text : List Char)
    (matched : like pattern text = true ↔ Like pattern text) :
    (decide (c = d) && like pattern text) = true ↔
      ∃ behind, d :: text = c :: behind ∧ Like pattern behind := by
  rw [Bool.and_eq_true, decide_eq_true_eq, matched]
  constructor
  · rintro ⟨rfl, rest⟩
    exact ⟨text, rfl, rest⟩
  · rintro ⟨behind, same, rest⟩
    cases same
    exact ⟨rfl, rest⟩

theorem like_iff (pattern text : List Char) : like pattern text = true ↔ Like pattern text := by
  fun_induction like pattern text with
  | case1 text => simp [like_nil_iff]
  | case2 pattern text ih => simp [like_any_iff, ih]
  | case3 c pattern notAny => simpa using not_like_nil c pattern notAny
  | case4 pattern c text ih => simp [like_one_iff, ih]
  | case5 c text => simpa using not_like_escape (c :: text)
  | case6 c pattern d text ih => rw [like_escaped_iff, first_same_iff c d pattern text ih]
  | case7 c pattern d text notAny notOne notLone notEscape ih =>
      have notEscape : c ≠ '\\' := by
        intro same
        cases pattern with
        | nil => exact notLone same rfl
        | cons next pattern => exact notEscape next pattern same rfl
      rw [like_plain_iff c notAny notOne notEscape, first_same_iff c d pattern text ih]

instance (pattern text : List Char) : Decidable (Like pattern text) :=
  decidable_of_iff _ (like_iff pattern text)

theorem like_percent (text : List Char) : Like ['%'] text :=
  List.append_nil text ▸ .any text .done

theorem pattern_literal (leading trailing : Bool) (s : List Char) :
    pattern leading trailing s =
      (if leading then ['%'] else []) ++
        (pattern false false s ++ if trailing then ['%'] else []) := by
  simp [pattern]

-- By induction on the text: what a character of it is written as matches just that character.
theorem like_literal_iff (s rest text : List Char) :
    Like (pattern false false s ++ rest) text ↔ ∃ behind, text = s ++ behind ∧ Like rest behind := by
  induction s generalizing text with
  | nil => simp [pattern]
  | cons c s ih =>
      have first : Like (pattern false false (c :: s) ++ rest) text ↔
          ∃ behind, text = c :: behind ∧ Like (pattern false false s ++ rest) behind := by
        by_cases special : c = '%' ∨ c = '_' ∨ c = '\\'
        · simpa [pattern, special] using like_escaped_iff c (pattern false false s ++ rest) text
        · obtain ⟨notAny, notOne, notEscape⟩ : c ≠ '%' ∧ c ≠ '_' ∧ c ≠ '\\' := by simpa using special
          simpa [pattern, special] using
            like_plain_iff c notAny notOne notEscape (pattern false false s ++ rest) text
      rw [first]
      constructor
      · rintro ⟨behind, rfl, matched⟩
        obtain ⟨last, rfl, remaining⟩ := (ih behind).mp matched
        exact ⟨last, rfl, remaining⟩
      · rintro ⟨last, rfl, remaining⟩
        exact ⟨s ++ last, rfl, (ih _).mpr ⟨last, rfl, remaining⟩⟩

theorem like_pattern_iff (leading trailing : Bool) (s text : List Char) :
    Like (pattern leading trailing s) text ↔
      ∃ before behind, before ++ (s ++ behind) = text ∧
        (leading = false → before = []) ∧ (trailing = false → behind = []) := by
  have inside : ∀ text, Like (pattern false false s ++ if trailing then ['%'] else []) text ↔
      ∃ behind, text = s ++ behind ∧ (trailing = false → behind = []) := by
    intro text
    rw [like_literal_iff]
    cases trailing with
    | false => simp [like_nil_iff]
    | true => simp [like_percent]
  rw [pattern_literal]
  cases leading with
  | false =>
      rw [if_neg Bool.false_ne_true, List.nil_append, inside]
      constructor
      · rintro ⟨behind, rfl, closed⟩
        exact ⟨[], behind, rfl, fun _ => rfl, closed⟩
      · rintro ⟨before, behind, rfl, opened, closed⟩
        exact ⟨behind, by rw [opened rfl, List.nil_append], closed⟩
  | true =>
      rw [if_pos rfl, List.singleton_append, like_any_iff]
      constructor
      · rintro ⟨last, ⟨before, rfl⟩, matched⟩
        obtain ⟨behind, rfl, closed⟩ := (inside last).mp matched
        exact ⟨before, behind, rfl, nofun, closed⟩
      · rintro ⟨before, behind, rfl, _, closed⟩
        exact ⟨s ++ behind, List.suffix_append before _, (inside _).mpr ⟨behind, rfl, closed⟩⟩

theorem pattern_matches_text (s text : List Char) :
    (like (pattern false true s) text = true ↔ s <+: text) ∧
      (like (pattern true false s) text = true ↔ s <:+ text) ∧
      (like (pattern true true s) text = true ↔ s <:+: text) ∧
      (like (pattern false false s) text = true ↔ text = s) := by
  refine ⟨?_, ?_, ?_, ?_⟩
  · rw [like_iff, like_pattern_iff]
    constructor
    · rintro ⟨before, behind, rfl, opened, _⟩
      exact ⟨behind, by rw [opened rfl, List.nil_append]⟩
    · rintro ⟨behind, rfl⟩
      exact ⟨[], behind, rfl, fun _ => rfl, nofun⟩
  · rw [like_iff, like_pattern_iff]
    constructor
    · rintro ⟨before, behind, rfl, _, closed⟩
      exact ⟨before, by rw [closed rfl, List.append_nil]⟩
    · rintro ⟨before, rfl⟩
      exact ⟨before, [], by rw [List.append_nil], nofun, fun _ => rfl⟩
  · rw [like_iff, like_pattern_iff]
    constructor
    · rintro ⟨before, behind, rfl, _⟩
      exact ⟨before, behind, List.append_assoc before s behind⟩
    · rintro ⟨before, behind, rfl⟩
      exact ⟨before, behind, (List.append_assoc before s behind).symm, nofun, nofun⟩
  · rw [like_iff, like_pattern_iff]
    constructor
    · rintro ⟨before, behind, rfl, opened, closed⟩
      rw [opened rfl, closed rfl, List.nil_append, List.append_nil]
    · rintro rfl
      exact ⟨[], [], List.append_nil text, fun _ => rfl, fun _ => rfl⟩

example : Like (pattern true true "\\50%_".toList) "at \\50%_ off".toList ∧
    ¬Like (pattern true true "50%_".toList) "at 50 % off".toList ∧ ¬Like ['%', '\\'] "off".toList := by
  decide

end Sql

end EntitySchema

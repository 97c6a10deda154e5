import EntitySchema.Proofs.Field.Whole
import EntitySchema.Proofs.Record.Normalizer

set_option autoImplicit false

namespace EntitySchema

namespace Format

def isWord (part : List Char) : Bool := !part.isEmpty && part.all isSlugChar

def slugScan (word : Bool) : List Char → Bool
  | [] => word
  | c :: rest => if isSlugChar c then slugScan true rest else c = '-' && word && slugScan false rest

theorem parts_scan (text : List Char) :
    ∃ part parts, splitOn '-' text = part :: parts ∧
      slugScan true text = (part.all isSlugChar && parts.all isWord) ∧
      slugScan false text = (isWord part && parts.all isWord) := by
  induction text with
  | nil => exact ⟨[], [], rfl, rfl, rfl⟩
  | cons c rest ih =>
      obtain ⟨part, parts, split, inWord, atStart⟩ := ih
      by_cases hyphen : c = '-'
      · subst hyphen
        have mark : isSlugChar '-' = false := by decide
        refine ⟨[], part :: parts, by rw [splitOn, if_pos rfl, split], ?_, ?_⟩
        · simp [slugScan, mark, atStart]
        · simp [slugScan, mark, isWord]
      · refine ⟨c :: part, parts, by rw [splitOn, if_neg hyphen, split], ?_, ?_⟩ <;>
          cases plain : isSlugChar c <;> simp [slugScan, plain, hyphen, inWord, isWord]

theorem isSlug_scan (s : String) : isSlug s = slugScan false s.toList := by
  obtain ⟨part, parts, split, -, whole⟩ := parts_scan s.toList
  rw [isSlug, whole, split]
  rfl

theorem slugChar_alphanum (c : Char) (plain : isSlugChar c = true) :
    c.isAlphanum = true ∧ c.toLower = c ∧ c ≠ '-' := by
  have alphanum : c.isAlphanum = true := by
    change ((c.isUpper || c.isLower) || c.isDigit) = true
    rw [Bool.or_assoc, Bool.or_eq_true]
    exact .inr plain
  exact ⟨alphanum, ascii_forall (fun c => isSlugChar c = true → c.toLower = c ∧ c ≠ '-')
    (by decide +kernel) c (Normalizer.alphanum_small c alphanum) plain⟩

theorem lower_slugChar (c : Char) (kept : c.isAlphanum = true) : isSlugChar c.toLower = true :=
  ascii_forall (fun c => c.isAlphanum = true → isSlugChar c.toLower = true) (by decide +kernel) c
    (Normalizer.alphanum_small c kept) kept

end Format

namespace Normalizer

open Format

theorem slugChars_tail (text : List Char) (gap : Bool) :
    slugScan true (slugChars true gap text) = true := by
  induction text generalizing gap with
  | nil => rfl
  | cons c rest ih =>
      rw [slugChars]
      by_cases kept : c.isAlphanum = true
      · have plain := lower_slugChar c kept
        have mark : isSlugChar '-' = false := by decide
        cases gap <;> simp [kept, slugScan, plain, mark, ih]
      · rw [if_neg kept]
        exact ih true

theorem slugChars_scan (text : List Char) (gap : Bool) :
    slugScan false (slugChars false gap text) = text.any Char.isAlphanum := by
  induction text generalizing gap with
  | nil => rfl
  | cons c rest ih =>
      rw [slugChars, List.any_cons]
      by_cases kept : c.isAlphanum = true
      · have plain := lower_slugChar c kept
        simp [kept, slugScan, plain, slugChars_tail]
      · rw [if_neg kept, ih, Bool.eq_false_iff.mpr kept, Bool.false_or]

theorem slugChars_nothing (text : List Char) (gap : Bool) (none : text.any Char.isAlphanum = false) :
    slugChars false gap text = [] := by
  induction text generalizing gap with
  | nil => rfl
  | cons c rest ih =>
      rw [List.any_cons, Bool.or_eq_false_iff] at none
      rw [slugChars, if_neg (by simp [none.1])]
      exact ih true none.2

theorem slugChars_kept (text : List Char) :
    (slugScan true text = true → slugChars true false text = text) ∧
      (slugScan false text = true →
        slugChars true true text = '-' :: text ∧ ∀ gap, slugChars false gap text = text) := by
  induction text with
  | nil => exact ⟨fun _ => rfl, fun nothing => absurd nothing (by decide)⟩
  | cons c rest ih =>
      obtain ⟨inWord, atStart⟩ := ih
      by_cases plain : isSlugChar c = true
      · obtain ⟨alphanum, lower, -⟩ := slugChar_alphanum c plain
        simp only [slugScan, if_pos plain, slugChars, if_pos alphanum, lower]
        refine ⟨fun later => ?_, fun later => ⟨?_, fun gap => ?_⟩⟩ <;> simp [inWord later]
      · simp only [slugScan, if_neg plain, Bool.and_eq_true, decide_eq_true_eq]
        refine ⟨?_, by simp⟩
        rintro ⟨⟨rfl, -⟩, later⟩
        have mark : '-'.isAlphanum = false := by decide
        rw [slugChars, if_neg (by simp [mark])]
        exact (atStart later).1

theorem slugChars_letters (text : List Char) (inside gap : Bool) :
    (slugChars inside gap text).filter (· ≠ '-') = (text.filter Char.isAlphanum).map Char.toLower := by
  induction text generalizing inside gap with
  | nil => rfl
  | cons c rest ih =>
      rw [slugChars]
      by_cases kept : c.isAlphanum = true
      · have letter := (slugChar_alphanum c.toLower (lower_slugChar c kept)).2.2
        rw [if_pos kept, List.filter_append, List.filter_cons_of_pos (by simpa using letter),
          ih true false, List.filter_cons_of_pos kept, List.map_cons]
        cases inside && gap <;> rfl
      · rw [if_neg kept, ih inside true, List.filter_cons_of_neg kept]

theorem isSlug_slugifyText (s : String) : isSlug (slugifyText s) = s.toList.any Char.isAlphanum := by
  rw [isSlug_scan, slugifyText, String.toList_ofList, slugChars_scan]

theorem slugifyText_nothing (s : String) (none : s.toList.any Char.isAlphanum = false) :
    slugifyText s = "" := by
  rw [slugifyText, slugChars_nothing s.toList false none]

theorem slugifyText_slug (s : String) (slug : isSlug s = true) : slugifyText s = s := by
  rw [isSlug_scan] at slug
  rw [slugifyText, ((slugChars_kept s.toList).2 slug).2 false, String.ofList_toList]

theorem slug_iff (s : String) (bounds : Bounds) (strict : Bool) :
    Check.slug (.string s) bounds strict = .ok () ↔ isSlug s = true :=
  Check.formatted_iff "slug" (.string s) (isSlug s)

theorem slugified_slug (s : String) (bounds : Bounds) (strict : Bool) :
    (Check.slug (.string (slugifyText s)) bounds strict = .ok () ↔ ∃ c ∈ s.toList, c.isAlphanum = true) ∧
      (slugifyText s = "" ↔ ∀ c ∈ s.toList, c.isAlphanum = false) ∧
      (slugifyText s = s ↔ s = "" ∨ Check.slug (.string s) bounds strict = .ok ()) ∧
      slugifyText (slugifyText s) = slugifyText s ∧
      (slugifyText s).toList.filter (· ≠ '-') = (s.toList.filter Char.isAlphanum).map Char.toLower := by
  have made := isSlug_slugifyText s
  simp only [slug_iff]
  refine ⟨by rw [made, List.any_eq_true], ⟨fun nothing => ?_, fun none => ?_⟩, ⟨fun same => ?_, ?_⟩,
    slugifyText_again s, ?_⟩
  · rw [nothing] at made
    exact fun c member => Bool.eq_false_iff.mpr (List.any_eq_false.mp made.symm c member)
  · exact slugifyText_nothing s (List.any_eq_false.mpr fun c member => by simp [none c member])
  · cases some : s.toList.any Char.isAlphanum with
    | false => exact .inl (same ▸ slugifyText_nothing s some)
    | true => exact .inr (by rw [← same, made, some])
  · rintro (rfl | slug)
    · rfl
    · exact slugifyText_slug s slug
  · rw [slugifyText, String.toList_ofList, slugChars_letters]

end Normalizer

end EntitySchema

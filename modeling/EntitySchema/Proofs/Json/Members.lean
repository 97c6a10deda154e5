import EntitySchema.Json.Value
import Mathlib.Data.String.Basic

set_option autoImplicit false

namespace EntitySchema

theorem lookup_cons_if {α : Type} (key name : String) (value : α) (rest : List (String × α)) :
    List.lookup name ((key, value) :: rest) =
      if name = key then some value else rest.lookup name := by
  rw [List.lookup_cons]
  by_cases same : name = key
  · simp [same]
  · have differs : (name == key) = false := by simpa using same
    simp [differs, same]

theorem lookup_insert {α : Type} (key name : String) (value : α) (members : List (String × α)) :
    (Members.insert key value members).lookup name =
      if name = key then some value else members.lookup name := by
  induction members with
  | nil => rw [Members.insert, lookup_cons_if]
  | cons member rest ih =>
      obtain ⟨k, v⟩ := member
      rw [Members.insert, lookup_cons_if k]
      by_cases replaced : key = k
      · subst replaced
        rw [if_pos rfl, lookup_cons_if]
        split <;> rfl
      · by_cases before : key < k
        · rw [if_neg replaced, if_pos before, lookup_cons_if, lookup_cons_if]
        · rw [if_neg replaced, if_neg before, lookup_cons_if, ih]
          by_cases here : name = k
          · simp [here, Ne.symm replaced]
          · simp [here]

theorem lookup_of_mem {α : Type} (entries : List (String × α)) (key : String) (value : α)
    (distinct : (entries.map Prod.fst).Nodup) (member : (key, value) ∈ entries) :
    entries.lookup key = some value := by
  obtain ⟨before, after, whole⟩ := List.append_of_mem member
  refine List.lookup_eq_some_iff.mpr ⟨before, after, whole, ?_⟩
  rw [whole, List.map_append, List.nodup_append] at distinct
  intro entry earlier
  have differs := distinct.2.2 entry.1 (List.mem_map_of_mem earlier) key (by simp)
  simpa using Ne.symm differs

namespace Members

variable {α β : Type}

theorem sorted_of_names (members : List (String × α)) (names : List String)
    (listed : (members.map Prod.fst).Sublist names) (sorted : names.Pairwise (· < ·)) :
    Sorted members :=
  List.pairwise_map.mp (sorted.sublist listed)

theorem sorted_map (f : α → β) (members : List (String × α)) (sorted : Sorted members) :
    Sorted (members.map fun (k, v) => (k, f v)) :=
  List.pairwise_map.mpr sorted

theorem mem_insert (key : String) (value : α) (members : List (String × α)) (entry : String × α)
    (member : entry ∈ insert key value members) : entry = (key, value) ∨ entry ∈ members := by
  induction members with
  | nil => simpa [insert] using member
  | cons first rest ih =>
      obtain ⟨k, v⟩ := first
      by_cases replaced : key = k
      · rw [insert, if_pos replaced] at member
        rcases List.mem_cons.mp member with same | later
        · exact .inl same
        · exact .inr (List.mem_cons_of_mem _ later)
      · by_cases before : key < k
        · rw [insert, if_neg replaced, if_pos before] at member
          exact List.mem_cons.mp member
        · rw [insert, if_neg replaced, if_neg before] at member
          rcases List.mem_cons.mp member with same | later
          · exact .inr (same ▸ List.mem_cons_self)
          · exact (ih later).imp_right (List.mem_cons_of_mem _)

theorem insert_sorted (key : String) (value : α) (members : List (String × α))
    (sorted : Sorted members) : Sorted (insert key value members) := by
  induction members with
  | nil => exact List.pairwise_singleton _ _
  | cons first rest ih =>
      obtain ⟨k, v⟩ := first
      obtain ⟨least, tail⟩ := List.pairwise_cons.mp sorted
      by_cases replaced : key = k
      · rw [insert, if_pos replaced]
        exact List.pairwise_cons.mpr ⟨fun entry member => replaced ▸ least entry member, tail⟩
      · by_cases before : key < k
        · rw [insert, if_neg replaced, if_pos before]
          refine List.pairwise_cons.mpr ⟨?_, sorted⟩
          intro entry member
          rcases List.mem_cons.mp member with same | later
          · exact same ▸ before
          · exact lt_trans before (least entry later)
        · rw [insert, if_neg replaced, if_neg before]
          have after : k < key := lt_of_le_of_ne (not_lt.mp before) (Ne.symm replaced)
          refine List.pairwise_cons.mpr ⟨?_, ih tail⟩
          intro entry member
          rcases mem_insert key value rest entry member with same | later
          · exact same ▸ after
          · exact least entry later

theorem insert_last (key : String) (value : α) (members : List (String × α))
    (last : ∀ entry ∈ members, entry.1 < key) :
    insert key value members = members ++ [(key, value)] := by
  induction members with
  | nil => rfl
  | cons first rest ih =>
      obtain ⟨k, v⟩ := first
      have before : k < key := last (k, v) List.mem_cons_self
      rw [insert, if_neg (ne_of_gt before), if_neg (not_lt_of_gt before),
        ih fun entry member => last entry (List.mem_cons_of_mem _ member), List.cons_append]

theorem insert_map (f : α → β) (key : String) (value : α) (members : List (String × α)) :
    (insert key value members).map (fun (k, v) => (k, f v)) =
      insert key (f value) (members.map fun (k, v) => (k, f v)) := by
  induction members with
  | nil => rfl
  | cons first rest ih =>
      obtain ⟨k, v⟩ := first
      by_cases replaced : key = k
      · simp [insert, replaced]
      · by_cases before : key < k
        · simp [insert, replaced, before]
        · simp [insert, replaced, before, ih]

theorem insert_perm (key : String) (value : α) (members : List (String × α))
    (fresh : key ∉ members.map Prod.fst) :
    (insert key value members).Perm ((key, value) :: members) := by
  induction members with
  | nil => exact .refl _
  | cons first rest ih =>
      obtain ⟨k, v⟩ := first
      rw [List.map_cons, List.mem_cons, not_or] at fresh
      by_cases before : key < k
      · rw [insert, if_neg fresh.1, if_pos before]
      · rw [insert, if_neg fresh.1, if_neg before]
        exact ((ih fresh.2).cons (k, v)).trans (.swap _ _ _)

def insertAll (members entries : List (String × α)) : List (String × α) :=
  entries.foldl (fun members (key, value) => insert key value members) members

theorem insertAll_sorted (entries members : List (String × α)) (sorted : Sorted members) :
    Sorted (insertAll members entries) := by
  induction entries generalizing members with
  | nil => exact sorted
  | cons entry rest ih => exact ih _ (insert_sorted entry.1 entry.2 members sorted)

theorem mem_insertAll (entries members : List (String × α)) (entry : String × α)
    (member : entry ∈ insertAll members entries) : entry ∈ members ∨ entry ∈ entries := by
  induction entries generalizing members with
  | nil => exact .inl member
  | cons first rest ih =>
      rcases ih _ member with earlier | later
      · rcases mem_insert first.1 first.2 members entry earlier with same | before
        · exact .inr (same ▸ List.mem_cons_self)
        · exact .inl before
      · exact .inr (List.mem_cons_of_mem _ later)

theorem insertAll_append (entries members : List (String × α))
    (sorted : Sorted (members ++ entries)) : insertAll members entries = members ++ entries := by
  induction entries generalizing members with
  | nil => exact (List.append_nil members).symm
  | cons first rest ih =>
      obtain ⟨key, value⟩ := first
      have last : ∀ entry ∈ members, entry.1 < key := by
        intro entry member
        exact (List.pairwise_append.mp sorted).2.2 entry member (key, value) List.mem_cons_self
      have next := ih (members ++ [(key, value)]) (by simpa using sorted)
      rw [← insert_last key value members last] at next
      calc insertAll members ((key, value) :: rest)
          = insertAll (insert key value members) rest := rfl
        _ = insert key value members ++ rest := next
        _ = members ++ (key, value) :: rest := by
            rw [insert_last key value members last, List.append_assoc, List.singleton_append]

theorem insertAll_map (f : α → β) (entries members : List (String × α)) :
    (insertAll members entries).map (fun (k, v) => (k, f v)) =
      insertAll (members.map fun (k, v) => (k, f v)) (entries.map fun (k, v) => (k, f v)) := by
  induction entries generalizing members with
  | nil => rfl
  | cons first rest ih =>
      obtain ⟨key, value⟩ := first
      have step := insert_map f key value members
      calc (insertAll members ((key, value) :: rest)).map (fun (k, v) => (k, f v))
          = (insertAll (insert key value members) rest).map (fun (k, v) => (k, f v)) := rfl
        _ = insertAll ((insert key value members).map fun (k, v) => (k, f v))
              (rest.map fun (k, v) => (k, f v)) := ih _
        _ = insertAll (insert key (f value) (members.map fun (k, v) => (k, f v)))
              (rest.map fun (k, v) => (k, f v)) := by rw [step]

theorem ofList_sorted (entries : List (String × α)) : Sorted (ofList entries) :=
  insertAll_sorted entries [] List.Pairwise.nil

theorem mem_ofList (entries : List (String × α)) (entry : String × α)
    (member : entry ∈ ofList entries) : entry ∈ entries :=
  (mem_insertAll entries [] entry member).resolve_left List.not_mem_nil

theorem ofList_of_sorted (members : List (String × α)) (sorted : Sorted members) :
    ofList members = members :=
  insertAll_append members [] sorted

theorem insertAll_perm (entries members : List (String × α))
    (distinct : ((members ++ entries).map Prod.fst).Nodup) :
    (insertAll members entries).Perm (members ++ entries) := by
  induction entries generalizing members with
  | nil => simp [insertAll]
  | cons first rest ih =>
      obtain ⟨key, value⟩ := first
      have moved : (members ++ (key, value) :: rest).Perm ((key, value) :: members ++ rest) :=
        List.perm_middle
      have apart : (key :: (members ++ rest).map Prod.fst).Nodup :=
        (moved.map Prod.fst).nodup_iff.mp distinct
      have fresh : key ∉ members.map Prod.fst := fun member =>
        (List.nodup_cons.mp apart).1 (by simp [member])
      have first := insert_perm key value members fresh
      have next := ih (insert key value members)
        (((first.append_right rest).map Prod.fst).nodup_iff.mpr apart)
      exact next.trans ((first.append_right rest).trans moved.symm)

theorem ofList_perm (entries : List (String × α)) (distinct : (entries.map Prod.fst).Nodup) :
    (ofList entries).Perm entries :=
  insertAll_perm entries [] distinct

theorem sorted_unique (members others : List (String × α)) (sorted : Sorted members)
    (sorted' : Sorted others) (same : members.Perm others) : members = others :=
  same.eq_of_pairwise (fun _ _ _ _ below above => absurd below (lt_asymm above)) sorted sorted'

theorem ofList_congr (entries others : List (String × α))
    (distinct : (entries.map Prod.fst).Nodup) (same : entries.Perm others) :
    ofList entries = ofList others := by
  have distinct' : (others.map Prod.fst).Nodup := (same.map Prod.fst).nodup_iff.mp distinct
  refine sorted_unique _ _ (ofList_sorted entries) (ofList_sorted others) ?_
  exact (ofList_perm entries distinct).trans (same.trans (ofList_perm others distinct').symm)

theorem ofList_map (f : α → β) (entries : List (String × α)) :
    (ofList entries).map (fun (k, v) => (k, f v)) = ofList (entries.map fun (k, v) => (k, f v)) :=
  insertAll_map f entries []

end Members

end EntitySchema

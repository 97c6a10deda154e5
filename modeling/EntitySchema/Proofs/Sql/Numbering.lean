import EntitySchema.Proofs.Sql.Lexing

set_option autoImplicit false

namespace EntitySchema.Sql

-- From left to right, every index is one of the `first` known ones or the next one; `last` are
-- known at the end.
inductive Counted : Nat → List Nat → Nat → Prop where
  | done (known : Nat) : Counted known [] known
  | old (known index last : Nat) (rest : List Nat) (positive : 0 < index) (bound : index ≤ known)
      (counted : Counted known rest last) : Counted known (index :: rest) last
  | fresh (known last : Nat) (rest : List Nat) (counted : Counted (known + 1) rest last) :
      Counted known ((known + 1) :: rest) last

theorem counted_le (first last : Nat) (indices : List Nat) (counted : Counted first indices last) :
    first ≤ last := by
  induction counted with
  | done => exact Nat.le_refl _
  | old _ _ _ _ _ _ _ ih => exact ih
  | fresh _ _ _ _ ih => omega

theorem counted_bounds (first last : Nat) (indices : List Nat)
    (counted : Counted first indices last) : ∀ index ∈ indices, 0 < index ∧ index ≤ last := by
  induction counted with
  | done => simp
  | old known index last rest positive bound counted ih =>
      have grown := counted_le known last rest counted
      intro other member
      rcases List.mem_cons.mp member with same | later
      · omega
      · exact ih other later
  | fresh known last rest counted ih =>
      have grown := counted_le (known + 1) last rest counted
      intro other member
      rcases List.mem_cons.mp member with same | later
      · omega
      · exact ih other later

theorem counted_append (first middle last : Nat) (left right : List Nat)
    (counted : Counted first left middle) (continued : Counted middle right last) :
    Counted first (left ++ right) last := by
  induction counted with
  | done => exact continued
  | old known index _ rest positive bound _ ih =>
      exact .old known index last _ positive bound (ih continued)
  | fresh known _ rest _ ih => exact .fresh known last _ (ih continued)

theorem counted_known (known : Nat) (indices : List Nat)
    (bounds : ∀ index ∈ indices, 0 < index ∧ index ≤ known) : Counted known indices known := by
  induction indices with
  | nil => exact .done known
  | cons index rest ih =>
      have here := bounds index (by simp)
      exact .old known index known rest here.1 here.2
        (ih fun other member => bounds other (by simp [member]))

theorem counted_again (first last later : Nat) (indices : List Nat)
    (counted : Counted first indices last) (grown : last ≤ later) :
    Counted later indices later := by
  apply counted_known
  intro index member
  have bounds := counted_bounds first last indices counted index member
  omega

theorem counted_next (first last : Nat) (indices : List Nat) (counted : Counted first indices last) :
    Counted first (indices ++ [last + 1]) (last + 1) :=
  counted_append first last (last + 1) indices [last + 1] counted
    (.fresh last (last + 1) [] (.done (last + 1)))

theorem counted_firsts (first last : Nat) (indices : List Nat)
    (counted : Counted first indices last) :
    (indices.filter fun index => decide (first < index)).eraseDups =
      List.range' (first + 1) (last - first) := by
  induction counted with
  | done => simp
  | old known index last rest positive bound counted ih =>
      have skipped : ¬known < index := by omega
      simpa [List.filter_cons, skipped] using ih
  | fresh known last rest counted ih =>
      have grown := counted_le (known + 1) last rest counted
      have split : last - known = (last - (known + 1)) + 1 := by omega
      have others : ((rest.filter fun index => decide (known < index)).filter
          fun index => !index == known + 1) =
          rest.filter fun index => decide (known + 1 < index) := by
        rw [List.filter_filter]
        apply List.filter_congr
        intro index _
        by_cases same : index = known + 1
        · simp [same]
        · have above : known < index ↔ known + 1 < index := by omega
          simp [same, above]
      simp only [List.filter_cons, Nat.lt_add_one, decide_true, if_true, List.eraseDups_cons,
        others, ih, split, List.range'_succ]

theorem counted_firsts_from_zero (last : Nat) (indices : List Nat)
    (counted : Counted 0 indices last) : indices.eraseDups = List.range' 1 last := by
  have positive : (indices.filter fun index => decide (0 < index)) = indices := by
    apply List.filter_eq_self.mpr
    intro index member
    simpa using (counted_bounds 0 last indices counted index member).1
  simpa only [positive, Nat.zero_add, Nat.sub_zero] using counted_firsts 0 last indices counted

theorem counted_mem_iff (last index : Nat) (indices : List Nat)
    (counted : Counted 0 indices last) : index ∈ indices ↔ 1 ≤ index ∧ index ≤ last := by
  rw [← List.mem_eraseDups, counted_firsts_from_zero last indices counted, List.mem_range'_1]
  omega

namespace Fragment

structure Numbered (first last : Nat) (fragment : Fragment) : Prop where
  readable : fragment.Readable
  counted : Counted first fragment.indices last

theorem name_numbered (identifier : String) (known : Nat) (clean : '"' ∉ identifier.toList) :
    Numbered known known [.name identifier] :=
  ⟨readable_single _ clean, .done known⟩

theorem numbered_again (first last later : Nat) (fragment : Fragment)
    (numbered : fragment.Numbered first last) (grown : last ≤ later) :
    fragment.Numbered later later :=
  ⟨numbered.readable, counted_again first last later _ numbered.counted grown⟩

theorem numbered_append_place (first last : Nat) (fragment : Fragment) (s : String)
    (numbered : fragment.Numbered first last) (clean : plainText s = true) :
    Numbered first (last + 1) (fragment ++ [.text s, .place (last + 1)]) := by
  constructor
  · exact readable_append_text _ _ _ numbered.readable clean (readable_single (.place _) trivial)
  · simpa using counted_next first last _ numbered.counted

theorem numbered_append_text (first last : Nat) (fragment : Fragment) (s : String)
    (numbered : fragment.Numbered first last) (clean : plainText s = true) :
    Numbered first last (fragment ++ [.text s]) :=
  ⟨readable_append_single _ _ numbered.readable clean, by simpa using numbered.counted⟩

theorem numbered_text_cons (first last : Nat) (fragment : Fragment) (s : String)
    (numbered : fragment.Numbered first last) (clean : plainText s = true) :
    Numbered first last (.text s :: fragment) :=
  ⟨readable_text_cons _ _ clean numbered.readable, by simpa using numbered.counted⟩

theorem numbered_append (first middle last : Nat) (left right : Fragment) (s : String)
    (leftNumbered : left.Numbered first middle) (clean : plainText s = true)
    (rightNumbered : right.Numbered middle last) :
    Numbered first last (left ++ .text s :: right) := by
  constructor
  · exact readable_append_text _ _ _ leftNumbered.readable clean rightNumbered.readable
  · simpa using counted_append first middle last _ _ leftNumbered.counted rightNumbered.counted

theorem numbered_parenthesized (first last : Nat) (fragment : Fragment)
    (numbered : fragment.Numbered first last) :
    (parenthesized fragment).Numbered first last :=
  ⟨readable_parenthesized _ numbered.readable, by simpa using numbered.counted⟩

structure RowNumbered (first last : Nat) (fragments : List Fragment) : Prop where
  readable : ∀ fragment ∈ fragments, fragment.Readable
  counted : Counted first (fragments.flatMap indices) last

theorem row_nil (known : Nat) : RowNumbered known known [] := ⟨by simp, .done known⟩

theorem row_cons (first middle last : Nat) (fragment : Fragment) (rest : List Fragment)
    (numbered : fragment.Numbered first middle) (row : RowNumbered middle last rest) :
    RowNumbered first last (fragment :: rest) := by
  constructor
  · intro other member
    rcases List.mem_cons.mp member with same | later
    · exact same ▸ numbered.readable
    · exact row.readable other later
  · simpa using counted_append first middle last _ _ numbered.counted row.counted

theorem row_append (first middle last : Nat) (left right : List Fragment)
    (leftRow : RowNumbered first middle left) (rightRow : RowNumbered middle last right) :
    RowNumbered first last (left ++ right) := by
  constructor
  · intro fragment member
    rcases List.mem_append.mp member with inLeft | inRight
    · exact leftRow.readable fragment inLeft
    · exact rightRow.readable fragment inRight
  · simpa using counted_append first middle last _ _ leftRow.counted rightRow.counted

theorem row_single (first last : Nat) (fragment : Fragment)
    (numbered : fragment.Numbered first last) : RowNumbered first last [fragment] :=
  row_cons first last last fragment [] numbered (row_nil last)

theorem join_numbered (first last : Nat) (separator : String) (fragments : List Fragment)
    (row : RowNumbered first last fragments) (clean : plainText separator = true) :
    Numbered first last (join separator fragments) :=
  ⟨readable_join separator clean fragments row.readable,
    by simpa only [indices_join] using row.counted⟩

end Fragment

end EntitySchema.Sql

import EntitySchema.Field.Check
import EntitySchema.Proofs.Number.Value

set_option autoImplicit false

namespace EntitySchema

structure Bounds.Spans (b : Bounds) (q : ℚ) : Prop where
  low : ∀ limit, b.min = some limit → limit.toNumber.value ≤ q
  high : ∀ limit, b.max = some limit → q ≤ limit.toNumber.value

theorem contains_iff (b : Bounds) (x : Binary64) : b.contains x = true ↔ b.Spans x.value := by
  simp only [Bounds.contains, Bool.and_eq_true, Option.all_eq_true, Binary64.le_iff_value]
  exact ⟨fun ⟨low, high⟩ => ⟨low, high⟩, fun spans => ⟨spans.low, spans.high⟩⟩

namespace Limit

def extent (l : Limit) : ℚ := max 0 l.toNumber.value

theorem toLength_mono (low high : Limit) (ordered : low.toNumber.le high.toNumber = true) :
    low.toLength ≤ high.toLength := by
  have below := Binary64.truncate_mono low.toNumber high.toNumber ordered
  simp only [toLength, Binary64.clampInto]
  omega

variable (l : Limit) (n : Nat)

theorem extent_le_iff : l.extent ≤ n ↔ l.toNumber.value ≤ n := by
  rw [extent, max_le_iff]
  exact and_iff_right (Nat.cast_nonneg n)

variable (machine : n < 2 ^ 63)

include machine

theorem toLength_le_iff (settled : l.toNumber.value ≤ 0 ∨ l.toNumber.isWhole = true) :
    l.toLength ≤ n ↔ l.extent ≤ n := by
  rw [extent_le_iff, toLength, Binary64.clampInto]
  rcases settled with nonpos | whole
  · have least : l.toNumber.truncate ≤ 0 := (l.toNumber.truncate_side 0).2 (by simpa using nonpos)
    have below : l.toNumber.value ≤ n := le_trans nonpos (Nat.cast_nonneg n)
    exact iff_of_true (by omega) below
  · rw [(l.toNumber.isWhole_iff).mp whole]
    norm_cast
    omega

theorem toLength_le (reached : l.extent ≤ n) : l.toLength ≤ n := by
  rw [extent_le_iff] at reached
  have below := (l.toNumber.truncate_side n).2 (by exact_mod_cast reached)
  rw [toLength, Binary64.clampInto]
  omega

theorem le_toLength_iff : n ≤ l.toLength ↔ (n : ℚ) ≤ l.extent := by
  have cut : n ≤ l.toLength ↔ n = 0 ∨ n ≤ l.toNumber.truncate := by
    rw [toLength, Binary64.clampInto]
    omega
  rw [cut, extent, le_max_iff]
  constructor
  · rintro (rfl | within)
    · exact .inl (by simp)
    · rcases le_total 0 l.toNumber.value with nonneg | nonpos
      · exact .inr (le_trans (by exact_mod_cast within) (l.toNumber.truncate_le_value nonneg))
      · have least := (l.toNumber.truncate_side 0).2 (by simpa using nonpos)
        exact .inl (by exact_mod_cast within.trans least)
  · rintro (zero | within)
    · exact .inl (by exact_mod_cast Nat.le_zero.mp (by exact_mod_cast zero))
    · exact .inr ((l.toNumber.truncate_side n).1 (by exact_mod_cast within))

end Limit

namespace Bounds

structure SpansLength (b : Bounds) (length : Nat) : Prop where
  low : ∀ limit, b.min = some limit → limit.extent ≤ length
  high : ∀ limit, b.max = some limit → length ≤ limit.extent

def StartsWhole (b : Bounds) : Prop :=
  ∀ limit, b.min = some limit → limit.toNumber.value ≤ 0 ∨ limit.toNumber.isWhole = true

theorem containsLength_iff (b : Bounds) (length : Nat) (machine : length < 2 ^ 63) :
    b.containsLength length = true ↔
      (∀ limit, b.min = some limit → limit.toLength ≤ length) ∧
        ∀ limit, b.max = some limit → length ≤ limit.toLength := by
  have word : length ≤ 0xFFFFFFFFFFFFFFFF := by omega
  rw [containsLength, Bool.and_eq_true, decide_eq_true_iff, decide_eq_true_iff, minLength?, maxLength?]
  obtain ⟨low, high⟩ := b
  cases low <;> cases high <;> simp [word]

section

variable (b : Bounds) (length : Nat) (machine : length < 2 ^ 63)

include machine

theorem containsLength_of_spans (spans : b.SpansLength length) : b.containsLength length = true :=
  (containsLength_iff b length machine).mpr
    ⟨fun limit least => limit.toLength_le length machine (spans.low limit least),
      fun limit greatest => (limit.le_toLength_iff length machine).mpr (spans.high limit greatest)⟩

theorem low_of_containsLength (settled : b.StartsWhole) (contained : b.containsLength length = true)
    (limit : Limit) (least : b.min = some limit) : limit.extent ≤ length :=
  (limit.toLength_le_iff length machine (settled limit least)).mp
    (((containsLength_iff b length machine).mp contained).1 limit least)

theorem high_of_containsLength (contained : b.containsLength length = true) (limit : Limit)
    (greatest : b.max = some limit) : length ≤ limit.extent :=
  (limit.le_toLength_iff length machine).mp
    (((containsLength_iff b length machine).mp contained).2 limit greatest)

end

theorem spans_of_nonneg (b : Bounds) (length : Nat)
    (nonneg : ∀ limit, b.max = some limit → 0 ≤ limit.toNumber.value) :
    b.Spans length ↔ b.SpansLength length := by
  constructor
  · rintro ⟨low, high⟩
    exact ⟨fun limit least => (limit.extent_le_iff length).mpr (low limit least),
      fun limit greatest => le_max_of_le_right (high limit greatest)⟩
  · rintro ⟨low, high⟩
    refine ⟨fun limit least => (limit.extent_le_iff length).mp (low limit least), ?_⟩
    intro limit greatest
    have extent : limit.extent = limit.toNumber.value := max_eq_right (nonneg limit greatest)
    exact extent ▸ high limit greatest

end Bounds

namespace Check

inductive Measures : Check → Json → Nat → Prop where
  | text (s : String) : Measures Check.string (.string s) s.length
  | list (items : List Json) : Measures Check.array (.array items) items.length

theorem measures_iff (check : Check) (value : Json) (length : Nat)
    (measures : Measures check value length) (bounds : Bounds) (strict : Bool) :
    check value bounds strict = .ok () ↔ bounds.containsLength length = true := by
  cases measures <;> simp only [Check.string, Check.array, text, bind, Except.bind, withinLength] <;>
    split <;> simp [*]

-- Under a lower side with a fraction, no more is said than that lengths within the bounds are accepted.
theorem length_bounded (check : Check) (value : Json) (length : Nat)
    (measures : Measures check value length) (machine : length < 2 ^ 63) (bounds : Bounds)
    (strict : Bool) :
    (bounds.SpansLength length → check value bounds strict = .ok ()) ∧
      (check value bounds strict = .ok () →
        ∀ limit, bounds.max = some limit → length ≤ limit.extent) ∧
      (bounds.StartsWhole → (check value bounds strict = .ok () ↔ bounds.SpansLength length)) ∧
      (length ≤ 2 ^ 53 → (∀ limit, bounds.max = some limit → 0 ≤ limit.toNumber.value) →
        (bounds.contains (.ofNat length) = true ↔ bounds.SpansLength length)) := by
  rw [measures_iff check value length measures bounds strict]
  have accepts := bounds.containsLength_of_spans length machine
  refine ⟨accepts, bounds.high_of_containsLength length machine, ?_, ?_⟩
  · intro settled
    refine ⟨fun contained => ⟨?_, ?_⟩, accepts⟩
    · exact bounds.low_of_containsLength length machine settled contained
    · exact bounds.high_of_containsLength length machine contained
  · intro precise nonneg
    have value : (Binary64.ofNat length).value = length :=
      (Binary64.value_ofInt length precise).trans (Int.cast_natCast length)
    rw [contains_iff, value]
    exact bounds.spans_of_nonneg length nonneg

def twoAndHalf : Binary64 := ⟨false, 0x14000000000000, -51, by decide⟩

theorem twoAndHalf_value : twoAndHalf.value = 5 / 2 :=
  twoAndHalf.value_eq_div 5 2 (by decide) (by decide +kernel)

def pairBounds : Bounds := ⟨some (.number (.ofInt (-1))), some (.number twoAndHalf)⟩

theorem pair_bounded :
    Measures Check.array (.array [.null, .null]) 2 ∧ 2 < 2 ^ 63 ∧ pairBounds.StartsWhole ∧
      pairBounds.SpansLength 2 ∧ Check.array (.array [.null, .null]) pairBounds true = .ok () ∧
      pairBounds.contains (.ofNat 2) = true := by
  have least : (Binary64.ofInt (-1)).value = -1 := by simpa using Binary64.value_ofInt (-1) (by decide)
  have settled : pairBounds.StartsWhole := by
    rintro limit ⟨⟩
    exact .inl (by rw [Limit.toNumber, least]; norm_num)
  have nonneg : ∀ limit, pairBounds.max = some limit → 0 ≤ limit.toNumber.value := by
    rintro limit ⟨⟩
    rw [Limit.toNumber, twoAndHalf_value]
    norm_num
  have spans : pairBounds.SpansLength 2 := by
    constructor
    · rintro limit ⟨⟩
      rw [Limit.extent_le_iff, Limit.toNumber, least]
      norm_num
    · rintro limit ⟨⟩
      refine le_max_of_le_right ?_
      rw [Limit.toNumber, twoAndHalf_value]
      norm_num
  obtain ⟨_, _, judged, contained⟩ := length_bounded Check.array (.array [.null, .null]) 2
    (.list [.null, .null]) (by decide) pairBounds true
  exact ⟨.list [.null, .null], by decide, settled, spans, (judged settled).mpr spans,
    (contained (by decide) nonneg).mpr spans⟩

theorem limits_taken_loosely :
    (Check.string (.string "") ⟨none, some (.number (.ofInt (-1)))⟩ false = .ok () ∧
        (⟨none, some (.number (.ofInt (-1)))⟩ : Bounds).contains (.ofNat 0) = false) ∧
      Check.string (.string "ab") ⟨some (.number twoAndHalf), none⟩ false = .ok () ∧
        (⟨some (.number twoAndHalf), none⟩ : Bounds).contains (.ofNat 2) = false := by
  refine ⟨⟨?_, by decide +kernel⟩, ?_, by decide +kernel⟩
  · exact (measures_iff _ _ _ (.text "") _ _).mpr (by decide +kernel)
  · exact (measures_iff _ _ _ (.text "ab") _ _).mpr (by decide +kernel)

end Check

end EntitySchema

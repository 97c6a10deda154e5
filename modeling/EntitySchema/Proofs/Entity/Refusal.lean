import EntitySchema.Proofs.Entity.Assembly
import EntitySchema.Proofs.Field.Dates

/-!
# Definitions that are refused

What is wrong with a table, with a descriptor and with the keys of several descriptors is listed fault
by fault, each looked for on its own. An entity is built if there is no fault at all; otherwise the
first fault is the one reported. Bounds are out of order if their sides are as numbers, which for dates
are whole milliseconds.
-/

set_option autoImplicit false

namespace EntitySchema

open Instant

deriving instance DecidableEq for Json.Found, Json.ShapeError, DefinitionFault, SchemaError

theorem head_flatMap_range {ε : Type} (lists : Nat → List ε) (count : Nat) (entry : ε) :
    ((List.range count).flatMap lists).head? = some entry ↔
      ∃ n < count, (∀ m < n, lists m = []) ∧ (lists n).head? = some entry := by
  induction count with
  | zero => simp
  | succ count ih =>
      rw [List.range_succ, List.flatMap_append, List.head?_append, Option.or_eq_some_iff, ih,
        List.flatMap_singleton, List.head?_eq_none_iff, List.flatMap_eq_nil_iff]
      constructor
      · rintro (⟨n, below, before, here⟩ | ⟨before, here⟩)
        · exact ⟨n, by omega, before, here⟩
        · exact ⟨count, by omega, fun m below => before m (List.mem_range.mpr below), here⟩
      · rintro ⟨n, below, before, here⟩
        rcases Nat.lt_succ_iff_lt_or_eq.mp below with earlier | rfl
        · exact .inl ⟨n, earlier, before, here⟩
        · exact .inr ⟨fun m listed => before m (List.mem_range.mp listed), here⟩

namespace Descriptor

variable (types : TypeRegistry) (d : Descriptor)

def effective : Bounds :=
  .orDefaults ⟨d.min, d.max⟩ ((types.get? d.typeName).elim .unbounded (·.defaults))

def keyFaults : List SchemaError := (keyFault? d.key).toList.map (.invalidKey d.key)

def typeFaults : List SchemaError :=
  match types.get? d.typeName with
  | some _ => []
  | none => [.unknownType d.key d.typeName]

def tagFault (key tag : String) : List SchemaError :=
  match Operation.parse? tag with
  | some _ => []
  | none => [.invalidOperation key tag]

def tagFaults : List SchemaError := (d.operations.getD []).flatMap (tagFault d.key)

def normalizerFaults : List SchemaError :=
  match d.hooks.normalizer, d.normalizer with
  | none, some name =>
    match Normalizer.parse? name with
    | some _ => []
    | none => [.unknownNormalizer d.key name]
  | _, _ => []

def boundsFaults : List SchemaError :=
  if (d.effective types).isInverted then
    [.invalidBounds d.key (d.effective types).minLabel (d.effective types).maxLabel]
  else []

def faults : List SchemaError :=
  d.keyFaults ++ (d.typeFaults types ++ (d.tagFaults ++ (d.normalizerFaults ++ d.boundsFaults types)))

def repeatFaults (earlier : List Descriptor) : List SchemaError :=
  if d.key ∈ earlier.map (·.key) then [.duplicateKey d.key] else []

def faultsAt (descriptors : List Descriptor) (n : Nat) : List SchemaError :=
  match descriptors[n]? with
  | none => []
  | some d => d.faults types ++ d.repeatFaults (descriptors.take n)

end Descriptor

namespace Property

theorem resolveOperations_reports (d : Descriptor) :
    Reports d.tagFaults (resolveOperations d.key d.operations) := by
  unfold Descriptor.tagFaults resolveOperations
  cases d.operations with
  | none => exact .sound _
  | some tags =>
      refine reports_return _ _ _ (reports_mapM (Descriptor.tagFault d.key) _ ?_ tags)
      intro tag
      unfold Descriptor.tagFault
      cases Operation.parse? tag with
      | none => exact .faulty _ []
      | some op => exact .sound op

theorem resolveNormalizer_reports (d : Descriptor) :
    Reports d.normalizerFaults (resolveNormalizer d) := by
  unfold Descriptor.normalizerFaults resolveNormalizer
  cases d.hooks.normalizer with
  | some f => exact .sound _
  | none =>
      cases d.normalizer with
      | none => exact .sound _
      | some name =>
          simp only
          cases Normalizer.parse? name with
          | none => exact .faulty _ []
          | some normalizer => exact .sound _

-- The faults of the bounds are looked for without a type, too; they come behind that of the type.
theorem resolve_reports (types : TypeRegistry) (d : Descriptor) :
    Reports (d.faults types) (resolve types d) := by
  unfold resolve Descriptor.faults Descriptor.keyFaults Descriptor.typeFaults
  cases keyFault? d.key with
  | some fault => exact .faulty _ _
  | none =>
      cases known : types.get? d.typeName with
      | none => exact .faulty _ _
      | some type =>
          have sides : d.effective types = .orDefaults ⟨d.min, d.max⟩ type.defaults := by
            rw [Descriptor.effective, known]
            rfl
          change Reports (d.tagFaults ++ (d.normalizerFaults ++ d.boundsFaults types))
            (resolveOperations d.key d.operations >>= _)
          refine reports_bind _ _ _ _ (resolveOperations_reports d) fun operations _ => ?_
          refine reports_bind _ _ _ _ (resolveNormalizer_reports d) fun normalization _ => ?_
          rw [Descriptor.boundsFaults, sides]
          by_cases inverted : (Bounds.orDefaults ⟨d.min, d.max⟩ type.defaults).isInverted = true
          · simp only [if_pos inverted]
            exact .faulty _ _
          · simp only [if_neg inverted]
            exact .sound _

end Property

namespace Entity

-- By induction on the descriptors that are left; the keys seen are those of the descriptors before.
theorem resolveAll_reports (types : TypeRegistry) (descriptors earlier : List Descriptor)
    (seen : List String) (known : ∀ key, key ∈ seen ↔ key ∈ earlier.map (·.key)) :
    Reports ((List.range descriptors.length).flatMap fun n =>
        Descriptor.faultsAt types (earlier ++ descriptors) (earlier.length + n))
      (resolveAll types seen descriptors) := by
  induction descriptors generalizing earlier seen with
  | nil => exact .sound []
  | cons d rest ih =>
      have here : Descriptor.faultsAt types (earlier ++ d :: rest) (earlier.length + 0) =
          d.faults types ++ d.repeatFaults earlier := by
        simp [Descriptor.faultsAt]
      have moved : ∀ n, Descriptor.faultsAt types (earlier ++ d :: rest) (earlier.length + (n + 1)) =
          Descriptor.faultsAt types (earlier ++ [d] ++ rest) ((earlier ++ [d]).length + n) := by
        intro n
        rw [List.append_assoc, List.length_append, List.length_singleton, Nat.add_assoc, Nat.add_comm 1]
        rfl
      rw [List.length_cons, List.range_succ_eq_map, List.flatMap_cons, List.flatMap_map, here,
        List.append_assoc, resolveAll]
      refine reports_bind _ _ _ _ (Property.resolve_reports types d) fun p resolved => ?_
      have key : p.key = d.key := (resolve_declared types d p resolved).key
      have repeated : seen.contains p.key = true ↔ d.key ∈ earlier.map (·.key) := by
        rw [List.contains_iff_mem, known, key]
      unfold Descriptor.repeatFaults
      by_cases again : d.key ∈ earlier.map (·.key)
      · rw [if_pos again, repeated.mpr again, key]
        exact .faulty _ _
      · rw [if_neg again, Bool.eq_false_iff.mpr (mt repeated.mp again), List.nil_append]
        simp only [Nat.succ_eq_add_one, moved]
        refine reports_return _ _ (p :: ·) (ih (earlier ++ [d]) (p.key :: seen) fun other => ?_)
        rw [List.mem_cons, known, key, List.map_append, List.mem_append, or_comm]
        simp

theorem build_reports (name table : String) (descriptors : List Descriptor) (types : TypeRegistry) :
    Reports ((tableFault? table).toList.map (SchemaError.malformed "table") ++
        (List.range descriptors.length).flatMap (Descriptor.faultsAt types descriptors))
      (build name table descriptors types) := by
  unfold build
  cases tableFault? table with
  | some fault => exact .faulty _ _
  | none =>
      have all := resolveAll_reports types descriptors [] [] (by simp)
      simp only [List.nil_append, List.length_nil, Nat.zero_add] at all
      exact reports_return _ _ _ all

end Entity

structure Quotable (text : String) : Prop where
  unquoted : '"' ∉ text.toList
  printable : ∀ c ∈ text.toList, isControl c = false

structure GoodTable (table : String) : Prop where
  given : ∀ part ∈ tableParts table, Blank.isBlankText part = false
  quotable : Quotable table

namespace Descriptor

structure Valid (types : TypeRegistry) (d : Descriptor) : Prop where
  given : Blank.isBlankText d.key = false
  quotable : Quotable d.key
  typed : ∃ type, types.get? d.typeName = some type
  tagged : ∀ tags, d.operations = some tags → ∀ tag ∈ tags, ∃ op, Operation.parse? tag = some op
  normalized : ∀ name, d.normalizer = some name → d.hooks.normalizer = none →
    ∃ normalizer, Normalizer.parse? name = some normalizer
  ordered : ∀ low high, (d.effective types).min = some low → (d.effective types).max = some high →
    low.toNumber.value ≤ high.toNumber.value

end Descriptor

theorem keyFault_none_iff (key : String) :
    keyFault? key = none ↔ Blank.isBlankText key = false ∧ Quotable key := by
  constructor
  · intro valid
    exact ⟨valid_key_given key valid, valid_key_unquoted key valid, valid_key_printable key valid⟩
  · rintro ⟨given, unquoted, printable⟩
    have plain : key.toList.any isControl = false := by simpa using printable
    simp [keyFault?, given, unquoted, plain]

theorem tableFault_none_iff (table : String) : tableFault? table = none ↔ GoodTable table := by
  unfold tableFault?
  constructor
  · intro valid
    split at valid
    · cases valid
    · rename_i given
      split at valid
      · cases valid
      · rename_i quotable
        simp only [List.any_eq_true, not_exists, not_and, Bool.not_eq_true, Bool.or_eq_true,
          List.contains_iff_mem, not_or] at given quotable
        exact ⟨given, quotable.1, quotable.2⟩
  · rintro ⟨given, unquoted, printable⟩
    have parts : (tableParts table).any Blank.isBlankText = false := by simpa using given
    have plain : table.toList.any isControl = false := by simpa using printable
    simp [parts, unquoted, plain]

theorem inverted_iff (b : Bounds) :
    b.isInverted = true ↔ ∃ low high, b.min = some low ∧ b.max = some high ∧
      high.toNumber.value < low.toNumber.value := by
  have order : ∀ low high : Limit, high.toNumber.lt low.toNumber = true ↔
      high.toNumber.value < low.toNumber.value := by
    intro low high
    rw [← not_le, ← Binary64.le_iff_value]
    simp [Binary64.lt, Binary64.le]
  cases least : b.min with
  | none => simp [Bounds.isInverted, least]
  | some low =>
      cases greatest : b.max with
      | none => simp [Bounds.isInverted, greatest]
      | some high => simp [Bounds.isInverted, least, greatest, order]

namespace Descriptor

variable (types : TypeRegistry) (d : Descriptor)

theorem keyFaults_nil_iff : d.keyFaults = [] ↔ Blank.isBlankText d.key = false ∧ Quotable d.key := by
  rw [← keyFault_none_iff]
  cases fault : keyFault? d.key <;> simp [keyFaults, fault]

theorem typeFaults_nil_iff : d.typeFaults types = [] ↔ ∃ type, types.get? d.typeName = some type := by
  unfold typeFaults
  cases types.get? d.typeName <;> simp

theorem tagFaults_nil_iff : d.tagFaults = [] ↔
    ∀ tags, d.operations = some tags → ∀ tag ∈ tags, ∃ op, Operation.parse? tag = some op := by
  have each : ∀ tag, tagFault d.key tag = [] ↔ ∃ op, Operation.parse? tag = some op := by
    intro tag
    unfold tagFault
    cases Operation.parse? tag <;> simp
  unfold tagFaults
  cases d.operations with
  | none => simp
  | some tags => simp [List.flatMap_eq_nil_iff, each]

theorem normalizerFaults_nil_iff : d.normalizerFaults = [] ↔
    ∀ name, d.normalizer = some name → d.hooks.normalizer = none →
      ∃ normalizer, Normalizer.parse? name = some normalizer := by
  unfold normalizerFaults
  cases d.hooks.normalizer with
  | some f => simp
  | none =>
      cases d.normalizer with
      | none => simp
      | some name => cases parsed : Normalizer.parse? name <;> simp [parsed]

theorem boundsFaults_nil_iff : d.boundsFaults types = [] ↔
    ∀ low high, (d.effective types).min = some low → (d.effective types).max = some high →
      low.toNumber.value ≤ high.toNumber.value := by
  have upright : d.boundsFaults types = [] ↔ ¬(d.effective types).isInverted = true := by
    unfold boundsFaults
    split <;> simp [*]
  rw [upright, inverted_iff]
  simp only [not_exists, not_and, not_lt]

theorem faults_nil_iff : d.faults types = [] ↔ d.Valid types := by
  simp only [faults, List.append_eq_nil_iff, keyFaults_nil_iff, typeFaults_nil_iff, tagFaults_nil_iff,
    normalizerFaults_nil_iff, boundsFaults_nil_iff]
  constructor
  · rintro ⟨⟨given, quotable⟩, typed, tagged, normalized, ordered⟩
    exact ⟨given, quotable, typed, tagged, normalized, ordered⟩
  · rintro ⟨given, quotable, typed, tagged, normalized, ordered⟩
    exact ⟨⟨given, quotable⟩, typed, tagged, normalized, ordered⟩

end Descriptor

theorem nodup_iff_fresh {α : Type} (entries : List α) :
    entries.Nodup ↔ ∀ (n : Nat) (entry : α), entries[n]? = some entry → entry ∉ entries.take n := by
  rw [List.nodup_iff_pairwise_ne, List.pairwise_iff_getElem]
  constructor
  · intro apart n entry found before
    obtain ⟨below, rfl⟩ := List.getElem?_eq_some_iff.mp found
    obtain ⟨i, early, same⟩ := List.mem_take_iff_getElem.mp before
    exact apart i n (by omega) below (by omega) same
  · intro fresh i j first second before same
    exact fresh j _ (List.getElem?_eq_getElem second)
      (List.mem_take_iff_getElem.mpr ⟨i, by omega, same⟩)

namespace Descriptor

variable (types : TypeRegistry) (descriptors : List Descriptor)

theorem faultsAt_nil_iff (n : Nat) (d : Descriptor) (found : descriptors[n]? = some d) :
    faultsAt types descriptors n = [] ↔
      d.Valid types ∧ d.key ∉ (descriptors.map (·.key)).take n := by
  have earlier : d.repeatFaults (descriptors.take n) = [] ↔
      d.key ∉ (descriptors.map (·.key)).take n := by
    unfold repeatFaults
    rw [List.map_take]
    split <;> simp [*]
  rw [faultsAt, found, List.append_eq_nil_iff, faults_nil_iff, earlier]

theorem faultless_iff :
    (List.range descriptors.length).flatMap (faultsAt types descriptors) = [] ↔
      (∀ d ∈ descriptors, d.Valid types) ∧ (descriptors.map (·.key)).Nodup := by
  rw [List.flatMap_eq_nil_iff, nodup_iff_fresh]
  constructor
  · intro faultless
    have each : ∀ (n : Nat) (d : Descriptor), descriptors[n]? = some d →
        d.Valid types ∧ d.key ∉ (descriptors.map (·.key)).take n := by
      intro n d found
      have below : n < descriptors.length := (List.getElem?_eq_some_iff.mp found).1
      exact (faultsAt_nil_iff types descriptors n d found).mp
        (faultless n (List.mem_range.mpr below))
    constructor
    · intro d member
      obtain ⟨n, found⟩ := List.mem_iff_getElem?.mp member
      exact (each n d found).1
    · intro n key found
      rw [List.getElem?_map, Option.map_eq_some_iff] at found
      obtain ⟨d, found, rfl⟩ := found
      exact (each n d found).2
  · rintro ⟨valid, fresh⟩ n listed
    have below := List.mem_range.mp listed
    have found := List.getElem?_eq_getElem below
    refine (faultsAt_nil_iff types descriptors n _ found).mpr
      ⟨valid _ (List.getElem_mem below), fresh n _ ?_⟩
    rw [List.getElem?_map, found]
    rfl

end Descriptor

-- A limit whose number is where it stands: a number itself, or a date of whole milliseconds outside
-- of leap seconds.
def Limit.Exact : Limit → Prop
  | .number _ => True
  | .date t => t.Dated ∧ t.nano < billion ∧ 1000000 ∣ t.nano

theorem exact_point (l : Limit) (exact : l.Exact) : l.point = pointOf l.toNumber.value := by
  cases l with
  | number x => rfl
  | date t =>
      obtain ⟨dated, ordinary, parts, whole⟩ := exact
      have small := dated_millis t dated
      rw [Limit.point, point_of_elapsed t ordinary, Limit.toNumber,
        Binary64.value_ofInt t.millis (by omega), elapsed, Instant.millis, whole,
        Nat.mul_div_cancel_left parts (by decide)]
      push_cast
      ring_nf

theorem pointOf_le_iff (a b : ℚ) : pointOf a ≤ pointOf b ↔ a ≤ b :=
  ⟨fun ordered => le_of_not_gt fun before => not_le_of_gt (pointOf_lt before) ordered, pointOf_le⟩

namespace Descriptor

variable (types : TypeRegistry) (d : Descriptor)

def Exact : Prop :=
  ∀ limit, (d.effective types).min = some limit ∨ (d.effective types).max = some limit → limit.Exact

-- The lower side does not stand behind the upper one on the line of time, where numbers stand as
-- milliseconds.
def InOrder : Prop :=
  ∀ low high, (d.effective types).min = some low → (d.effective types).max = some high →
    low.point ≤ high.point

theorem exact_inOrder_iff (exact : d.Exact types) : d.boundsFaults types = [] ↔ d.InOrder types := by
  rw [boundsFaults_nil_iff]
  refine forall₄_congr fun low high least greatest => ?_
  rw [exact_point low (exact low (.inl least)), exact_point high (exact high (.inr greatest)),
    pointOf_le_iff]

end Descriptor

namespace Assembly

theorem build_reports (name table : String) (descriptors : List Descriptor) (types : TypeRegistry) :
    Reports ((tableFault? table).toList.map (SchemaError.malformed "table") ++
        (List.range descriptors.length).flatMap (Descriptor.faultsAt types descriptors))
      (build name table descriptors types) := by
  have whole := Entity.build_reports name table descriptors types
  rw [← build_entity] at whole
  exact reports_of_map _ _ entity whole

-- The first fault is that of the table, or else it lies in the first descriptor that is not valid or
-- repeats a key.
theorem build_refused_iff (name table : String) (descriptors : List Descriptor)
    (types : TypeRegistry) :
    ((∃ fault, build name table descriptors types = .error fault) ↔
      ¬GoodTable table ∨ (∃ d ∈ descriptors, ¬d.Valid types) ∨ ¬(descriptors.map (·.key)).Nodup) ∧
    (∀ fault, build name table descriptors types = .error fault ↔
      (∃ cause, tableFault? table = some cause ∧ fault = .malformed "table" cause) ∨
        (GoodTable table ∧ ∃ n < descriptors.length,
          (∀ m < n, Descriptor.faultsAt types descriptors m = []) ∧
            (Descriptor.faultsAt types descriptors n).head? = some fault)) ∧
    ∀ d : Descriptor, d.Exact types → (d.boundsFaults types = [] ↔ d.InOrder types) := by
  have reports := build_reports name table descriptors types
  have sound := Descriptor.faultless_iff types descriptors
  refine ⟨?_, fun fault => ?_, fun d => d.exact_inOrder_iff types⟩
  · rw [reports_refused_iff _ _ reports, ne_eq, List.append_eq_nil_iff, sound, List.map_eq_nil_iff,
      Option.toList_eq_nil_iff, tableFault_none_iff]
    simp only [not_and_or, not_forall, exists_prop]
  · rw [reports_error_iff _ _ reports]
    cases bad : tableFault? table with
    | some cause =>
        have good : ¬GoodTable table := by simp [← tableFault_none_iff, bad]
        simpa [good] using eq_comm
    | none =>
        have good : GoodTable table := (tableFault_none_iff table).mp bad
        simp [good, head_flatMap_range]

def crewFields : List Descriptor :=
  [(Declaration.of "id" "integer").plain,
   Declaration.plain { Declaration.of "at" "date" with
     operations := some ["select", "peek", "poke"], normalizer := some "shout" },
   (Declaration.of "id" "clock").plain]

def hastyField : Descriptor :=
  Declaration.plain { Declaration.of "at" "date" with
    min := some (.date ⟨1704067200, 900000000⟩), max := some (.date ⟨1704067200, 100000000⟩) }

theorem crewFields_refused :
    build "Crew" "crews" crewFields (.builtin .standard) = .error (.invalidOperation "at" "peek") ∧
      hastyField.Exact (.builtin .standard) ∧ hastyField.boundsFaults (.builtin .standard) ≠ [] := by
  obtain ⟨_, first, ordered⟩ := build_refused_iff "Crew" "crews" crewFields (.builtin .standard)
  have table : GoodTable "crews" := (tableFault_none_iff "crews").mp rfl
  have sides : hastyField.effective (.builtin .standard) = ⟨hastyField.min, hastyField.max⟩ := by
    decide +kernel
  have exact : hastyField.Exact (.builtin .standard) := by
    rintro limit (least | greatest)
    · rw [sides] at least
      cases least
      exact ⟨⟨by decide, by decide⟩, by decide, by decide⟩
    · rw [sides] at greatest
      cases greatest
      exact ⟨⟨by decide, by decide⟩, by decide, by decide⟩
  refine ⟨(first _).mpr (.inr ⟨table, 1, by decide, ?_, by decide +kernel⟩), exact, fun upright => ?_⟩
  · intro m below
    obtain rfl : m = 0 := by omega
    decide +kernel
  · have late := (ordered hastyField exact).mp upright _ _ (congrArg Bounds.min sides)
      (congrArg Bounds.max sides)
    exact absurd ((le_iff_point _ _).mpr late) (by decide)

def rosterFields : List Descriptor :=
  [Declaration.plain { Declaration.of "from" "date" with
     min := some (.date shiftStart), max := some (.date shiftEnd) },
   (Declaration.of "from" "date").plain]

theorem rosterFields_misreported :
    (∃ d ∈ rosterFields.head?, ¬d.InOrder (.builtin .standard)) ∧
      build "Roster" "rosters" rosterFields (.builtin .standard) = .error (.duplicateKey "from") := by
  constructor
  · refine ⟨_, rfl, fun inOrder => ?_⟩
    have late := inOrder (.date shiftStart) (.date shiftEnd) (by decide +kernel) (by decide +kernel)
    exact absurd ((le_iff_point _ _).mpr late) (by decide)
  · rw [reports_error_iff _ _ (build_reports "Roster" "rosters" rosterFields (.builtin .standard))]
    decide +kernel

end Assembly

end EntitySchema

import EntitySchema.Proofs.Request.Parameters
import EntitySchema.Settings

/-!
# Parameters in any order

A map of parameters has no order. In whichever order they are read, they come to the same request or
to none, and to none for the fault of one of them or, if none has a fault, for the size of the page.
-/

set_option autoImplicit false

namespace EntitySchema

namespace Parameter

def unread (name value : String) (read : Bool) : Option QueryError :=
  if read then none else some (.invalidParameter name value)

def fault? (name value : String) : Option QueryError :=
  match name with
  | "first" | "rows" => unread name value (readCount? (Blank.trim value)).isSome
  | "sortOrder" => unread name value (SortOrder.parse? value).isSome
  | "pagination" => unread name value (["true", "1", "false", "0", ""].contains (Blank.trim value))
  | "operator" =>
    unread name value
      (["and", "or"].contains (String.ofList ((Blank.trim value).toList.map Char.toLower)))
  | "filters" =>
    if Blank.isBlankText value then none
    else match Json.readText (fun _ => FilterMap.read) value with
      | .ok _ => none
      | .error cause => some (.invalidFilters cause)
  | _ => none

theorem count_reports (name value : String) :
    Reports (unread name value (readCount? (Blank.trim value)).isSome).toList (count name value) := by
  unfold count
  cases readCount? (Blank.trim value) with
  | none => exact .faulty _ []
  | some n => exact .sound n

theorem sortOrder_reports (name value : String) :
    Reports (unread name value (SortOrder.parse? value).isSome).toList (sortOrder name value) := by
  unfold sortOrder
  cases SortOrder.parse? value with
  | none => exact .faulty _ []
  | some order => exact .sound order

theorem flag_reports (name value : String) :
    Reports (unread name value (["true", "1", "false", "0", ""].contains (Blank.trim value))).toList
      (flag name value) := by
  unfold flag
  split
  case h_6 other _ _ _ _ _ =>
    have unknown : ["true", "1", "false", "0", ""].contains (Blank.trim value) = false := by
      simp_all
    rw [unknown]
    exact .faulty _ []
  all_goals
    rename_i known
    rw [known]
    exact .sound _

theorem connective_reports (name value : String) :
    Reports (unread name value
        (["and", "or"].contains (String.ofList ((Blank.trim value).toList.map Char.toLower)))).toList
      (connective name value) := by
  unfold connective
  split
  case h_3 =>
    have unknown :
        ["and", "or"].contains (String.ofList ((Blank.trim value).toList.map Char.toLower)) = false := by
      simp_all
    rw [unknown]
    exact .faulty _ []
  all_goals
    rename_i known
    rw [known]
    exact .sound _

theorem filters_reports (value : String) :
    Reports (fault? "filters" value).toList (filters value) := by
  simp only [filters, fault?]
  split
  · exact .sound []
  · cases Json.readText (fun _ => FilterMap.read) value with
    | ok map => exact .sound map
    | error cause => exact .faulty _ []

theorem apply_reports (request : SelectRequest) (name value : String) :
    Reports (fault? name value).toList (apply request name value) := by
  unfold apply
  split
  · exact reports_return _ _ _ (count_reports "first" value)
  · exact reports_return _ _ _ (count_reports "rows" value)
  · exact .sound _
  · exact reports_return _ _ _ (sortOrder_reports "sortOrder" value)
  · exact reports_return _ _ _ (flag_reports "pagination" value)
  · exact reports_return _ _ _ (connective_reports "operator" value)
  · exact reports_return _ _ _ (filters_reports value)
  · have none : fault? name value = none := by
      unfold fault?
      split <;> simp_all
    rw [none]
    exact .sound request

def readAll (parameters : List (String × String)) (request : SelectRequest) :
    Except QueryError SelectRequest :=
  parameters.foldlM (fun request (name, value) => apply request name value) request

def faults (parameters : List (String × String)) : List QueryError :=
  parameters.flatMap fun (name, value) => (fault? name value).toList

theorem readAll_reports (parameters : List (String × String)) (request : SelectRequest) :
    Reports (faults parameters) (readAll parameters request) :=
  reports_foldlM _ _ (fun request parameter => apply_reports request parameter.1 parameter.2)
    parameters request

def rows? (parameters : List (String × String)) : Option UInt64 :=
  (parameters.lookup "rows").bind fun value => readCount? (Blank.trim value)

theorem count_ok_iff (name value : String) (n : UInt64) :
    count name value = .ok n ↔ readCount? (Blank.trim value) = some n := by
  unfold count
  cases readCount? (Blank.trim value) <;> simp

theorem readAll_rows (parameters : List (String × String)) (distinct : (parameters.map Prod.fst).Nodup)
    (request result : SelectRequest) (started : request.rows = none)
    (read : readAll parameters request = .ok result) : result.rows = rows? parameters := by
  have sets := sets_each.2.1.run parameters distinct request result read
  rw [rows?]
  cases named : parameters.lookup "rows" with
  | none => rw [named] at sets; exact sets.trans started
  | some value =>
      rw [named] at sets
      obtain ⟨n, counted, same⟩ := (map_ok_iff _ _ _).mp sets
      rw [← same, Option.bind_some, (count_ok_iff _ _ _).mp counted]

section

variable (first second : List (String × String)) (distinct : (first.map Prod.fst).Nodup)
  (same : first.Perm second)

include distinct same

theorem lookup_shuffled (name : String) : first.lookup name = second.lookup name := by
  have distinct' := (same.map Prod.fst).nodup_iff.mp distinct
  cases found : second.lookup name with
  | some value =>
      obtain ⟨before, after, whole, -⟩ := List.lookup_eq_some_iff.mp found
      exact lookup_of_mem first name value distinct (same.mem_iff.mpr (by simp [whole]))
  | none =>
      rw [List.lookup_eq_none_iff] at found ⊢
      exact fun parameter member => found parameter (same.mem_iff.mp member)

theorem sets_shuffled {β : Type} {name : String} {read : String → Except QueryError β}
    {part : SelectRequest → β} (sets : Sets name read part) (request result other : SelectRequest)
    (one : readAll first request = .ok result) (two : readAll second request = .ok other) :
    part result = part other := by
  have distinct' := (same.map Prod.fst).nodup_iff.mp distinct
  have left := sets.run first distinct request result one
  have right := sets.run second distinct' request other two
  rw [← lookup_shuffled first second distinct same] at right
  cases named : first.lookup name with
  | none => rw [named] at left right; exact left.trans right.symm
  | some value => rw [named] at left right; exact Except.ok.inj (left.symm.trans right)

theorem readAll_shuffled (request result other : SelectRequest)
    (one : readAll first request = .ok result)
    (two : readAll second request = .ok other) : result = other := by
  obtain ⟨start, rows, sortField, sortOrder, pagination, connective, filters⟩ := sets_each
  have agree := fun {β : Type} {name : String} {read : String → Except QueryError β}
      {part : SelectRequest → β} (sets : Sets name read part) =>
    sets_shuffled first second distinct same sets request result other one two
  have start := agree start
  have rows := agree rows
  have sortField := agree sortField
  have sortOrder := agree sortOrder
  have pagination := agree pagination
  have connective := agree connective
  have filters := agree filters
  cases result
  cases other
  simp_all

end

theorem faults_nil_iff (parameters : List (String × String)) :
    faults parameters = [] ↔ ∀ parameter ∈ parameters, fault? parameter.1 parameter.2 = none := by
  simp only [faults, List.flatMap_eq_nil_iff, Option.toList_eq_nil_iff]

theorem mem_faults_iff (parameters : List (String × String)) (error : QueryError) :
    error ∈ faults parameters ↔
      ∃ parameter ∈ parameters, fault? parameter.1 parameter.2 = some error := by
  simp only [faults, List.mem_flatMap, Option.mem_toList]

theorem unnamed_of_sound (parameters : List (String × String))
    (sound : ∀ parameter ∈ parameters, fault? parameter.1 parameter.2 = none)
    (unnamed : rows? parameters = none) : parameters.lookup "rows" = none := by
  cases named : parameters.lookup "rows" with
  | none => rfl
  | some value =>
      obtain ⟨before, after, whole, -⟩ := List.lookup_eq_some_iff.mp named
      have read := sound ("rows", value) (by simp [whole])
      rw [rows?, named, Option.bind_some] at unnamed
      simp [fault?, unnamed, unread] at read

theorem fault_other (name value : String) (rows most : UInt64) :
    fault? name value ≠ some (.limitExceeded rows most) := by
  unfold fault? unread
  split <;> (try split) <;> (try split) <;> simp

end Parameter

namespace RequestDefaults

variable (defaults : RequestDefaults)

def wanted (parameters : List (String × String)) : Option UInt64 :=
  Parameter.rows? parameters <|> defaults.rows

def pageFault? (rows : Option UInt64) : Option QueryError :=
  match rows with
  | some rows => if defaults.maxRows < rows then some (.limitExceeded rows defaults.maxRows) else none
  | none => none

theorem pageSize_reports (rows : Option UInt64) :
    Reports (defaults.pageFault? (rows <|> defaults.rows)).toList (defaults.pageSize rows) := by
  unfold pageSize pageFault?
  cases (rows <|> defaults.rows) with
  | none => exact .sound none
  | some rows =>
      by_cases more : defaults.maxRows < rows
      · simp only [if_pos more]
        exact .faulty _ []
      · simp only [if_neg more]
        exact .sound (some rows)

theorem pageSize_ok (rows size : Option UInt64) (fits : defaults.pageSize rows = .ok size) :
    size = (rows <|> defaults.rows) := by
  unfold pageSize at fits
  split at fits
  · split at fits
    · cases fits
    · cases fits
      rename_i given _
      exact given.symm
  · cases fits
    rename_i given
    exact given.symm

theorem parse_reports (parameters : List (String × String))
    (distinct : (parameters.map Prod.fst).Nodup) :
    Reports (Parameter.faults parameters ++ (defaults.pageFault? (defaults.wanted parameters)).toList)
      (defaults.parse parameters) := by
  refine reports_bind _ _ _ _ (Parameter.readAll_reports parameters _) fun request read => ?_
  have rows := Parameter.readAll_rows parameters distinct _ request rfl read
  have meant : defaults.wanted parameters = (request.rows <|> defaults.rows) := by rw [wanted, rows]
  rw [meant]
  exact reports_return _ _ (fun size => { request with rows := size })
    (defaults.pageSize_reports request.rows)

theorem parse_ok (parameters : List (String × String)) (distinct : (parameters.map Prod.fst).Nodup)
    (request : SelectRequest) (parsed : defaults.parse parameters = .ok request) :
    ∃ result, Parameter.readAll parameters { SelectRequest.all with connective := defaults.connective } =
        .ok result ∧ request = { result with rows := defaults.wanted parameters } := by
  obtain ⟨result, read, parsed⟩ := (bind_ok_iff _ _ _).mp parsed
  obtain ⟨size, fits, made⟩ := (bind_ok_iff _ _ _).mp parsed
  have rows := Parameter.readAll_rows parameters distinct _ result rfl read
  have meant := defaults.pageSize_ok result.rows size fits
  cases made
  exact ⟨result, read, by rw [meant, rows, wanted]⟩

theorem pageFault_iff (rows : Option UInt64) (error : QueryError) :
    defaults.pageFault? rows = some error ↔
      ∃ size, rows = some size ∧ defaults.maxRows < size ∧
        error = .limitExceeded size defaults.maxRows := by
  cases rows with
  | none => simp [pageFault?]
  | some size => simp [pageFault?, eq_comm]

theorem pageFault_none_iff (rows : Option UInt64) :
    defaults.pageFault? rows = none ↔ ∀ size, rows = some size → size ≤ defaults.maxRows := by
  cases rows with
  | none => simp [pageFault?]
  | some size => simp [pageFault?, UInt64.not_lt]

def Blames (parameters : List (String × String)) (error : QueryError) : Prop :=
  (∃ parameter ∈ parameters, Parameter.fault? parameter.1 parameter.2 = some error) ∨
    (∀ parameter ∈ parameters, Parameter.fault? parameter.1 parameter.2 = none) ∧
      ∃ rows, defaults.wanted parameters = some rows ∧ defaults.maxRows < rows ∧
        error = .limitExceeded rows defaults.maxRows

theorem parse_error (parameters : List (String × String)) (distinct : (parameters.map Prod.fst).Nodup)
    (error : QueryError) (refused : defaults.parse parameters = .error error) :
    defaults.Blames parameters error := by
  have reports := defaults.parse_reports parameters distinct
  rw [reports_error_iff _ _ reports, List.head?_append, Option.or_eq_some_iff] at refused
  rcases refused with faulty | ⟨sound, page⟩
  · exact .inl ((Parameter.mem_faults_iff parameters error).mp (List.mem_of_mem_head? faulty))
  · rw [List.head?_eq_none_iff] at sound
    rw [Option.head?_toList] at page
    exact .inr ⟨(Parameter.faults_nil_iff parameters).mp sound, (defaults.pageFault_iff _ error).mp page⟩

theorem parse_sound (parameters : List (String × String)) (distinct : (parameters.map Prod.fst).Nodup) :
    (∃ request, defaults.parse parameters = .ok request) ↔
      (∀ parameter ∈ parameters, Parameter.fault? parameter.1 parameter.2 = none) ∧
        ∀ rows, defaults.wanted parameters = some rows → rows ≤ defaults.maxRows := by
  rw [reports_sound_iff _ _ (defaults.parse_reports parameters distinct), List.append_eq_nil_iff,
    Option.toList_eq_nil_iff, pageFault_none_iff, Parameter.faults_nil_iff]

section

variable (first second : List (String × String)) (distinct : (first.map Prod.fst).Nodup)
  (same : first.Perm second)

include distinct same

theorem wanted_shuffled : defaults.wanted first = defaults.wanted second := by
  rw [wanted, wanted, Parameter.rows?, Parameter.rows?,
    Parameter.lookup_shuffled first second distinct same]

theorem blames_shuffled (error : QueryError) :
    defaults.Blames first error ↔ defaults.Blames second error := by
  simp only [Blames, same.mem_iff, defaults.wanted_shuffled first second distinct same]

theorem parse_shuffled (request : SelectRequest) (parsed : defaults.parse first = .ok request) :
    defaults.parse second = .ok request := by
  have distinct' := (same.map Prod.fst).nodup_iff.mp distinct
  have sound := (defaults.parse_sound first distinct).mp ⟨request, parsed⟩
  simp only [same.mem_iff, defaults.wanted_shuffled first second distinct same] at sound
  obtain ⟨other, parsedToo⟩ := (defaults.parse_sound second distinct').mpr sound
  obtain ⟨result, read, made⟩ := defaults.parse_ok first distinct request parsed
  obtain ⟨result', read', made'⟩ := defaults.parse_ok second distinct' other parsedToo
  rw [parsedToo, made, made', defaults.wanted_shuffled first second distinct same,
    Parameter.readAll_shuffled first second distinct same _ result result' read read']

end

end RequestDefaults

theorem Settings.rows_of_sound (settings : Settings) (sound : settings.fault? = none) (rows : UInt64)
    (given : settings.requests.rows = some rows) : rows ≤ settings.requests.maxRows := by
  rw [Settings.fault?, given] at sound
  by_contra more
  rw [UInt64.not_le] at more
  simp only [more, if_true] at sound
  split at sound
  · cases sound
  · split at sound
    · cases sound
    · split at sound <;> cases sound

namespace RequestDefaults

variable (defaults : RequestDefaults)

theorem named_of_limit (parameters : List (String × String)) (distinct : (parameters.map Prod.fst).Nodup)
    (fits : ∀ rows, defaults.rows = some rows → rows ≤ defaults.maxRows) (rows most : UInt64)
    (refused : defaults.parse parameters = .error (.limitExceeded rows most)) :
    Parameter.rows? parameters = some rows ∧ defaults.maxRows < rows := by
  rcases defaults.parse_error parameters distinct _ refused with
    ⟨parameter, -, fault⟩ | ⟨-, rows', meant, more, limit⟩
  · exact absurd fault (Parameter.fault_other _ _ _ _)
  · cases limit
    rw [wanted] at meant
    cases named : Parameter.rows? parameters with
    | some size =>
        rw [named] at meant
        exact ⟨meant, more⟩
    | none =>
        rw [named] at meant
        exact absurd (fits rows meant) (UInt64.not_le.mpr more)

-- What is parsed, and whether anything is, is the same in every order; an error is that of a parameter
-- or of the page. Pages keep to the limit, and sound settings set no page size that exceeds it.
theorem parsed_in_any_order (first second : List (String × String))
    (distinct : (first.map Prod.fst).Nodup) (same : first.Perm second) :
    (∀ request, defaults.parse first = .ok request ↔ defaults.parse second = .ok request) ∧
      (∀ error, defaults.parse first = .error error ∨ defaults.parse second = .error error →
        defaults.Blames first error) ∧
      (∀ request, defaults.parse first = .ok request →
        (∀ parameter ∈ first, Parameter.fault? parameter.1 parameter.2 = none) ∧
          (∀ rows, request.rows = some rows → rows ≤ defaults.maxRows) ∧
          (request.rows = none → first.lookup "rows" = none ∧ defaults.rows = none)) ∧
      ∀ settings : Settings, settings.fault? = none → settings.requests = defaults →
        ∀ rows most, defaults.parse first = .error (.limitExceeded rows most) →
          ∃ value, first.lookup "rows" = some value ∧ Parameter.count "rows" value = .ok rows ∧
            defaults.maxRows < rows := by
  have distinct' := (same.map Prod.fst).nodup_iff.mp distinct
  refine ⟨fun request => ⟨defaults.parse_shuffled first second distinct same request,
    defaults.parse_shuffled second first distinct' same.symm request⟩, ?_, ?_, ?_⟩
  · rintro error (refused | refused)
    · exact defaults.parse_error first distinct error refused
    · rw [defaults.blames_shuffled first second distinct same]
      exact defaults.parse_error second distinct' error refused
  · intro request parsed
    obtain ⟨sound, fits⟩ := (defaults.parse_sound first distinct).mp ⟨request, parsed⟩
    obtain ⟨result, read, rfl⟩ := defaults.parse_ok first distinct request parsed
    refine ⟨sound, fits, fun unlimited => ?_⟩
    have unnamed : Parameter.rows? first = none ∧ defaults.rows = none := by
      simpa [wanted] using unlimited
    exact ⟨Parameter.unnamed_of_sound first sound unnamed.1, unnamed.2⟩
  · rintro settings sound rfl rows most refused
    obtain ⟨named, more⟩ := settings.requests.named_of_limit first distinct
      (settings.rows_of_sound sound) rows most refused
    obtain ⟨value, found, read⟩ := Option.bind_eq_some_iff.mp named
    exact ⟨value, found, (Parameter.count_ok_iff _ _ _).mpr read, more⟩

def pageParameters : List (String × String) :=
  [("rows", " 20"), ("operator", "or"), ("sortOrder", "-1"), ("callback", "x"), ("first", "+40")]

def spoiltParameters : List (String × String) := [("first", "-1"), ("operator", "xor")]

theorem pageParameters_reversed :
    ((pageParameters.map Prod.fst).Nodup ∧ pageParameters.Perm pageParameters.reverse ∧
      ∃ request, standard.parse pageParameters = .ok request ∧
        standard.parse pageParameters.reverse = .ok request ∧ request.rows = some 20) ∧
      (spoiltParameters.map Prod.fst).Nodup ∧ spoiltParameters.Perm spoiltParameters.reverse ∧
        standard.parse spoiltParameters = .error (.invalidParameter "first" "-1") ∧
        standard.parse spoiltParameters.reverse = .error (.invalidParameter "operator" "xor") ∧
        standard.Blames spoiltParameters (.invalidParameter "operator" "xor") := by
  have distinct : (pageParameters.map Prod.fst).Nodup := by decide
  have spoilt : (spoiltParameters.map Prod.fst).Nodup := by decide
  have turned := pageParameters.reverse_perm.symm
  have spoiltTurned := spoiltParameters.reverse_perm.symm
  obtain ⟨request, parsed, rows⟩ := ok_of_any (standard.parse pageParameters)
    (fun request => request.rows = some 20) (by decide +kernel)
  have backwards :
      standard.parse spoiltParameters.reverse = .error (.invalidParameter "operator" "xor") := by
    rfl
  refine ⟨⟨distinct, turned, request, parsed, ?_, by simpa using rows⟩, spoilt, spoiltTurned, rfl,
    backwards, ?_⟩
  · exact ((standard.parsed_in_any_order _ _ distinct turned).1 request).mp parsed
  · exact (standard.parsed_in_any_order _ _ spoilt spoiltTurned).2.1 _ (.inr backwards)

end RequestDefaults

end EntitySchema

import EntitySchema.CommandLine.Run
import EntitySchema.Proofs.Json.Equality
import EntitySchema.Proofs.Request.Parameters
import EntitySchema.Proofs.Sql.Lexing

set_option autoImplicit false

namespace EntitySchema

open Sql

namespace CommandLine

def selectionData (selection : Selection) : Json :=
  .object
    [("args", .array selection.args),
     ("dropped", .array (selection.dropped.map fun d =>
        .object [("field", .string d.field), ("reason", .string d.anomaly.message)])),
     ("sql", .string selection.sql.render)]

theorem run_compile (around : Surroundings) (settings : Settings) (e : Entity)
    (definition path : String) (json : Json) (request : SelectRequest)
    (given : around.json path = .ok json)
    (read : Json.readValue SelectRequest.read json = .ok request) :
    ((Command.compile definition path).run around settings e).outcome =
      ((settings.requests.pageSize request.rows).mapError .query).map fun rows =>
        selectionData (e.select .standard { request with rows := rows }) := by
  simp only [Command.run, given, Except.bind, read, Except.mapError, Report.andThen]
  cases settings.requests.pageSize request.rows <;> rfl

end CommandLine

theorem connectives_differ (head tail first second : Fragment) (rest : List Fragment)
    (one other : Connective) (differ : one ≠ other) :
    (head ++ Fragment.join (" " ++ one.name ++ " ") (first :: second :: rest) ++ tail).render ≠
      (head ++ Fragment.join (" " ++ other.name ++ " ") (first :: second :: rest) ++ tail).render := by
  intro same
  have texts := congrArg String.toList same
  simp only [Fragment.join, render_append, String.toList_append, render_cons, Piece.render,
    List.append_assoc, List.append_cancel_left_eq] at texts
  cases one <;> cases other <;> simp [Connective.name] at texts differ

theorem whereClause_few (compiled : Compiled) (one other : Connective)
    (few : compiled.fragments.length ≤ 1) : compiled.whereClause one = compiled.whereClause other := by
  rw [Compiled.whereClause, Compiled.whereClause, Compiled.predicate?, Compiled.predicate?]
  match listed : compiled.fragments with
  | [] => rfl
  | [_] => rfl
  | first :: second :: rest => simp [listed] at few

theorem whereClause_several (compiled : Compiled) (c : Connective) (first second : Fragment)
    (rest : List Fragment) (listed : compiled.fragments = first :: second :: rest) :
    compiled.whereClause c =
      [.text " WHERE "] ++ Fragment.join (" " ++ c.name ++ " ") (first :: second :: rest) := by
  rw [Compiled.whereClause, Compiled.predicate?, listed]
  rfl

theorem select_where (e : Entity) (modes : MatchModes) (request : SelectRequest) (c : Connective) :
    (e.select modes { request with connective := c }).sql =
      e.selectHead request.pagination ++ (request.filters.compile e modes 0).whereClause c ++
        (e.orderClause request ++
          (request.pageClause (request.filters.compile e modes 0).values.length).sql) :=
  List.append_assoc _ _ _

theorem select_connective (e : Entity) (modes : MatchModes) (request : SelectRequest)
    (one other : Connective) :
    CommandLine.selectionData (e.select modes { request with connective := one }) =
        CommandLine.selectionData (e.select modes { request with connective := other }) ↔
      one = other ∨ (request.filters.compile e modes 0).fragments.length ≤ 1 := by
  constructor
  · intro same
    by_contra neither
    obtain ⟨differ, several⟩ := not_or.mp neither
    have sql : (e.select modes { request with connective := one }).sql.render =
        (e.select modes { request with connective := other }).sql.render := by
      simp only [CommandLine.selectionData, Json.object.injEq, List.cons.injEq, Prod.mk.injEq,
        Json.string.injEq] at same
      exact same.2.2.1.2
    match listed : (request.filters.compile e modes 0).fragments with
    | [] => simp [listed] at several
    | [_] => simp [listed] at several
    | first :: second :: rest =>
      have clause := fun c => whereClause_several _ c first second rest listed
      rw [select_where, select_where, clause, clause, ← List.append_assoc (e.selectHead _),
        ← List.append_assoc (e.selectHead _)] at sql
      exact connectives_differ _ _ first second rest one other differ sql
  · rintro (same | few)
    · rw [same]
    · rw [CommandLine.selectionData, CommandLine.selectionData, select_where, select_where,
        whereClause_few _ one other few]
      rfl

theorem pageSize_cases (defaults : RequestDefaults) (rows : Option UInt64) :
    (defaults.pageSize rows = .ok (rows <|> defaults.rows)) ∨
      ∃ n, (rows <|> defaults.rows) = some n ∧ defaults.maxRows < n ∧
        defaults.pageSize rows = .error (.limitExceeded n defaults.maxRows) := by
  rw [RequestDefaults.pageSize]
  cases rows <|> defaults.rows with
  | none => exact .inl rfl
  | some n =>
      by_cases large : defaults.maxRows < n
      · exact .inr ⟨n, rfl, large, if_pos large⟩
      · exact .inl (if_neg large)

theorem same_connective (given : Option Connective) (default : Connective) :
    given.getD .and = given.getD default ↔ given.isSome = true ∨ default = .and := by
  cases given with
  | none => simp [eq_comm]
  | some c => simp

namespace RequestFields

theorem Carried.ordered (fields : RequestFields) (parameters : List (String × String))
    (carried : fields.Carried parameters) :
    ∀ members ∈ fields.filters, (Json.object members).Ordered := by
  intro members given
  have whole := carried.filters
  rw [given] at whole
  generalize parameters.lookup "filters" = told at whole
  cases whole with
  | some whole => exact Json.read_ordered _ _ whole

theorem Carried.parse (fields : RequestFields) (parameters : List (String × String))
    (carried : fields.Carried parameters)
    (bare : ∀ field ∈ fields.sortField, Blank.isBlankText field = false ∧ Blank.trim field = field)
    (defaults : RequestDefaults) :
    defaults.parse parameters = (defaults.pageSize fields.rows).map fun rows =>
      { fields.laidOver { SelectRequest.all with connective := defaults.connective } with rows := rows } := by
  refine (carried.told fields parameters ?_).parse fields parameters defaults
  intro field given
  rw [Parameter.fieldName, (bare field given).1, (bare field given).2]
  rfl

theorem run_compile (fields : RequestFields) (settings : Settings) (e : Entity)
    (around : CommandLine.Surroundings) (definition path : String)
    (ordered : ∀ members ∈ fields.filters, (Json.object members).Ordered)
    (given : around.json path = .ok fields.toJson) :
    ((CommandLine.Command.compile definition path).run around settings e).outcome =
      ((settings.requests.pageSize fields.rows).mapError .query).map fun rows =>
        CommandLine.selectionData (e.select .standard { fields.laidOver .all with rows := rows }) := by
  have rows : (fields.laidOver .all).rows = fields.rows := by
    rw [laidOver]
    cases fields.rows <;> rfl
  rw [← rows]
  exact CommandLine.run_compile around settings e definition path _ _ given
    (fields.read_toJson .value ordered)

end RequestFields

theorem compile_beside_parameters (settings : Settings) (e : Entity) (fields : RequestFields)
    (parameters : List (String × String)) (around : CommandLine.Surroundings)
    (definition path : String) (carried : fields.Carried parameters)
    (bare : ∀ field ∈ fields.sortField, Blank.isBlankText field = false ∧ Blank.trim field = field)
    (given : around.json path = .ok fields.toJson) :
    ((CommandLine.Command.compile definition path).run around settings e).outcome =
        ((settings.requests.parse parameters).mapError .query).map (fun request =>
          CommandLine.selectionData
            (e.select .standard { request with connective := fields.connective.getD .and })) ∧
      (∀ fault, settings.requests.parse parameters = .error fault →
        ∃ rows, (fields.rows <|> settings.requests.rows) = some rows ∧
          settings.requests.maxRows < rows ∧ fault = .limitExceeded rows settings.requests.maxRows) ∧
      ∀ request, settings.requests.parse parameters = .ok request →
        request.rows = (fields.rows <|> settings.requests.rows) ∧
          request.connective = fields.connective.getD settings.requests.connective ∧
          (((CommandLine.Command.compile definition path).run around settings e).outcome =
              .ok (CommandLine.selectionData (e.select .standard request)) ↔
            fields.connective.isSome ∨ settings.requests.connective = .and ∨
              (request.filters.compile e .standard 0).fragments.length ≤ 1) := by
  rw [fields.run_compile settings e around definition path (carried.ordered fields parameters) given,
    carried.parse fields parameters bare]
  rcases pageSize_cases settings.requests fields.rows with sized | ⟨n, asked, large, sized⟩
  · rw [sized]
    refine ⟨rfl, (fun fault refused => nomatch refused), ?_⟩
    rintro request ⟨⟩
    refine ⟨rfl, rfl, ?_⟩
    have agree := select_connective e .standard
      { fields.laidOver .all with rows := fields.rows <|> settings.requests.rows }
      (fields.connective.getD .and) (fields.connective.getD settings.requests.connective)
    rw [same_connective, or_assoc] at agree
    exact (Iff.of_eq (Except.ok.injEq _ _)).trans agree
  · rw [sized]
    refine ⟨rfl, ?_, fun request accepted => nomatch accepted⟩
    rintro fault ⟨⟩
    exact ⟨n, asked, large, rfl⟩

def notes : Entity :=
  (Entity.build "Note" "notes"
    [(Declaration.of "id" "integer").plain, (Declaration.of "text" "string").plain]
    (.builtin .standard)).toOption.getD ⟨"", "", [], .standard, .standard⟩

def pagedSettings (connective : Connective) : Settings :=
  { Settings.standard with requests := ⟨50, some 20, connective⟩ }

def notesFilters : String := "\x7b\"id\":\x7b\"value\":1\x7d,\"text\":\x7b\"value\":\"x\"\x7d\x7d"

def notesMembers : List (String × Json) :=
  [("id", .object [("value", .ofCount 1)]), ("text", .object [("value", .string "x")])]

def notesFields : RequestFields where
  first := none
  rows := none
  sortField := some "id"
  sortOrder := some .descending
  filters := some notesMembers
  pagination := none
  connective := none

def notesFile : CommandLine.Surroundings where
  file _ := .ok ("\x7b\"filters\":" ++ notesFilters ++ ",\"sortField\":\"id\",\"sortOrder\":\"DESC\"\x7d")
  variableValue _ := none

def notesParameters : List (String × String) :=
  [("sortOrder", "DESC"), ("filters", notesFilters), ("sortField", "id"), ("view", "list")]

theorem notes_read :
    Json.read? notesFilters = some (.object notesMembers) ∧
      (notesFile.json "request.json").toOption = some notesFields.toJson := by
  decide +kernel

theorem notesParameters_carry : notesFields.Carried notesParameters where
  distinct := by simp [notesParameters]
  first := rfl
  rows := rfl
  sortField := rfl
  sortOrder := rfl
  pagination := rfl
  connective := rfl
  filters := .some notes_read.1

theorem notesFields_bare :
    ∀ field ∈ notesFields.sortField, Blank.isBlankText field = false ∧ Blank.trim field = field := by
  rintro field ⟨⟩
  decide

theorem notesFile_json : notesFile.json "request.json" = .ok notesFields.toJson :=
  ok_of_toOption _ _ notes_read.2

theorem notes_compiled_alike :
    (pagedSettings .and).fault? = none ∧ notesFields.Carried notesParameters ∧
      notesFile.json "request.json" = .ok notesFields.toJson ∧
      ∃ request, (pagedSettings .and).requests.parse notesParameters = .ok request ∧
        request.rows = some 20 ∧
        ((CommandLine.Command.compile "notes.json" "request.json").run notesFile
            (pagedSettings .and) notes).outcome =
          .ok (CommandLine.selectionData (notes.select .standard request)) := by
  have parsed := notesParameters_carry.parse _ _ notesFields_bare (pagedSettings .and).requests
  obtain ⟨_, _, accepted⟩ := compile_beside_parameters (pagedSettings .and) notes notesFields
    notesParameters notesFile "notes.json" "request.json" notesParameters_carry notesFields_bare
    notesFile_json
  obtain ⟨rows, _, alike⟩ := accepted _ parsed
  exact ⟨by decide, notesParameters_carry, notesFile_json, _, parsed, rows, alike.mpr (.inr (.inl rfl))⟩

def notesRequest (connective : Connective) : SelectRequest :=
  { notesFields.laidOver .all with rows := some 20, connective := connective }

theorem notesRequest_sql :
    (notes.select .standard (notesRequest .and)).sql.render =
        "SELECT \"id\", \"text\" FROM \"notes\" WHERE \"id\" = $1 AND LOWER(\"text\") = $2" ++
          " ORDER BY \"id\" DESC LIMIT $3 OFFSET $4" ∧
      (notes.select .standard (notesRequest .or)).sql.render =
        "SELECT \"id\", \"text\" FROM \"notes\" WHERE \"id\" = $1 OR LOWER(\"text\") = $2" ++
          " ORDER BY \"id\" DESC LIMIT $3 OFFSET $4" := by
  decide +kernel

theorem notes_compiled_otherwise :
    (pagedSettings .or).fault? = none ∧ notesFields.Carried notesParameters ∧
      notesFile.json "request.json" = .ok notesFields.toJson ∧
      (((CommandLine.Command.compile "notes.json" "request.json").run notesFile (pagedSettings .or)
          notes).outcome.toOption.bind (Json.get? "sql") =
        some (.string ("SELECT \"id\", \"text\" FROM \"notes\" WHERE \"id\" = $1 AND LOWER(\"text\") = $2" ++
          " ORDER BY \"id\" DESC LIMIT $3 OFFSET $4"))) ∧
      (((pagedSettings .or).requests.parse notesParameters).toOption.map fun request =>
          (notes.select .standard request).sql.render) =
        some ("SELECT \"id\", \"text\" FROM \"notes\" WHERE \"id\" = $1 OR LOWER(\"text\") = $2" ++
          " ORDER BY \"id\" DESC LIMIT $3 OFFSET $4") := by
  refine ⟨by decide, notesParameters_carry, notesFile_json, ?_, ?_⟩
  · rw [notesFields.run_compile _ _ _ _ _ (notesParameters_carry.ordered _ _) notesFile_json,
      ← notesRequest_sql.1]
    rfl
  · rw [notesParameters_carry.parse _ _ notesFields_bare, ← notesRequest_sql.2]
    rfl

end EntitySchema

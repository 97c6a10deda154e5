import EntitySchema.Record.Validation

set_option autoImplicit false

namespace EntitySchema

inductive QueryError where
  | invalidParameter (name value : String)
  | limitExceeded (rows maxRows : UInt64)
  | invalidFilters (cause : Json.ShapeError)
  | noRecords
  | nothingToWrite (entity : String)
  | validation (cause : ValidationError)

namespace QueryError

def code : QueryError → String
  | .invalidParameter _ _ => "ANTITY_INVALID_QUERY_PARAM"
  | .limitExceeded _ _ => "ANTITY_LIMIT_EXCEEDED"
  | .invalidFilters _ => "ANTITY_INVALID_FILTERS"
  | .noRecords => "ANTITY_NO_RECORDS"
  | .nothingToWrite _ => "ANTITY_NOTHING_TO_WRITE"
  | .validation cause => cause.code

def message : QueryError → String
  | .invalidParameter name value => "Invalid query parameter: Invalid " ++ name ++ ": " ++ value
  | .limitExceeded rows maxRows =>
    "Page size " ++ toString rows ++ " exceeds maximum " ++ toString maxRows
  | .invalidFilters cause => "Invalid filters: " ++ cause.message
  | .noRecords => "No records to write"
  | .nothingToWrite entity => "Nothing to write on " ++ entity
  | .validation cause => cause.message

def key? : QueryError → Option String
  | .validation cause => cause.key?
  | _ => none

end QueryError

end EntitySchema

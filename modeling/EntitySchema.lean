import EntitySchema.Directory
import EntitySchema.Entity.Assembly
import EntitySchema.Filter.Binding
import EntitySchema.Library
import EntitySchema.Main
import EntitySchema.Proofs.CommandLine.Compile
import EntitySchema.Proofs.CommandLine.Validate
import EntitySchema.Proofs.Entity.Assembly
import EntitySchema.Proofs.Entity.Password
import EntitySchema.Proofs.Entity.Refusal
import EntitySchema.Proofs.Entity.Storage
import EntitySchema.Proofs.Entity.Visible
import EntitySchema.Proofs.Entity.WellFormed
import EntitySchema.Proofs.Field.Dates
import EntitySchema.Proofs.Field.Email
import EntitySchema.Proofs.Field.Millis
import EntitySchema.Proofs.Field.Slug
import EntitySchema.Proofs.Filter.Acceptance
import EntitySchema.Proofs.Filter.Account
import EntitySchema.Proofs.Filter.Binding
import EntitySchema.Proofs.Filter.Coverage
import EntitySchema.Proofs.Filter.Dropping
import EntitySchema.Proofs.Filter.Elements
import EntitySchema.Proofs.Filter.Emission
import EntitySchema.Proofs.Filter.Grouping
import EntitySchema.Proofs.Filter.Leaves
import EntitySchema.Proofs.Filter.Likeness
import EntitySchema.Proofs.Filter.Negation
import EntitySchema.Proofs.Filter.Objects
import EntitySchema.Proofs.Filter.Outline
import EntitySchema.Proofs.Filter.Paths
import EntitySchema.Proofs.Filter.Position
import EntitySchema.Proofs.Filter.Predicate
import EntitySchema.Proofs.Filter.Uncategorized
import EntitySchema.Proofs.Filter.Vocabulary
import EntitySchema.Proofs.Json.Layout
import EntitySchema.Proofs.Json.Lexing
import EntitySchema.Proofs.Json.Text
import EntitySchema.Proofs.Json.Whole
import EntitySchema.Proofs.Library.Loading
import EntitySchema.Proofs.Library.Steps
import EntitySchema.Proofs.Number.Shortest
import EntitySchema.Proofs.Outcome
import EntitySchema.Proofs.Record.Body
import EntitySchema.Proofs.Record.Cleaning
import EntitySchema.Proofs.Record.Repetition
import EntitySchema.Proofs.Record.Rounded
import EntitySchema.Proofs.Record.Trace
import EntitySchema.Proofs.Record.Trimming
import EntitySchema.Proofs.Record.Validation
import EntitySchema.Proofs.Request.Order
import EntitySchema.Proofs.Request.RoundTrip
import EntitySchema.Proofs.Session.Confinement
import EntitySchema.Proofs.Session.Log
import EntitySchema.Proofs.Session.Writes
import EntitySchema.Proofs.Sql.Assignment
import EntitySchema.Proofs.Sql.Columns
import EntitySchema.Proofs.Sql.Grouping
import EntitySchema.Proofs.Sql.Hiding
import EntitySchema.Proofs.Sql.Lexing
import EntitySchema.Proofs.Sql.Like
import EntitySchema.Proofs.Sql.Numbering
import EntitySchema.Proofs.Sql.Renumbering
import EntitySchema.Proofs.Sql.Returning
import EntitySchema.Proofs.Sql.Select
import EntitySchema.Proofs.Sql.Table
import EntitySchema.Proofs.Sql.Window
import EntitySchema.Proofs.Sql.Write
import EntitySchema.Session

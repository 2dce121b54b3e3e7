import SqlForge.Bindings
import SqlForge.Builder.Basic
import SqlForge.Builder.Call
import SqlForge.Builder.Clause
import SqlForge.Builder.Filter
import SqlForge.Calendar
import SqlForge.Config
import SqlForge.Dialect
import SqlForge.Entries
import SqlForge.Failure
import SqlForge.Grammar
import SqlForge.Identifier
import SqlForge.Json.Basic
import SqlForge.Json.Reader
import SqlForge.Number.Binary
import SqlForge.Number.Digits
import SqlForge.Number.Layout
import SqlForge.Number.Reader
import SqlForge.Number.Shortest
import SqlForge.Number.Word
import SqlForge.Proofs.Alignment.Aggregate
import SqlForge.Proofs.Alignment.Select
import SqlForge.Proofs.Alignment.Write
import SqlForge.Proofs.Builder.Failure
import SqlForge.Proofs.Builder.Reachable
import SqlForge.Proofs.Except
import SqlForge.Proofs.Identifier
import SqlForge.Proofs.Placeholder.Bound
import SqlForge.Proofs.Placeholder.Builder
import SqlForge.Proofs.Placeholder.Call
import SqlForge.Proofs.Placeholder.Clause
import SqlForge.Proofs.Placeholder.Name
import SqlForge.Proofs.Placeholder.Part
import SqlForge.Proofs.Placeholder.Render
import SqlForge.Proofs.Placeholder.Sql
import SqlForge.Proofs.Placeholder.Step
import SqlForge.Proofs.Placeholder.Write
import SqlForge.Proofs.Select.Render
import SqlForge.Record
import SqlForge.Row.Basic
import SqlForge.Row.Decode
import SqlForge.Schema.Blueprint
import SqlForge.Schema.Catalog
import SqlForge.Schema.Change
import SqlForge.Schema.Column
import SqlForge.Schema.Definition
import SqlForge.Schema.Statement
import SqlForge.Select.Basic
import SqlForge.Select.Render
import SqlForge.Session.Basic
import SqlForge.Session.Query
import SqlForge.Session.Schema
import SqlForge.Session.Script
import SqlForge.Session.Write
import SqlForge.Sql
import SqlForge.Statement
import SqlForge.Text.Blank
import SqlForge.Text.Bytes
import SqlForge.Text.Category
import SqlForge.Text.Escaped
import SqlForge.Text.Lowercase
import SqlForge.Text.Search
import SqlForge.Text.Unassigned
import SqlForge.Toml.Basic
import SqlForge.Toml.Reader
import SqlForge.Toml.Word
import SqlForge.Uuid
import SqlForge.Value
import SqlForge.Write.Change
import SqlForge.Write.Insert
import SqlForge.Proofs.Builder.Family
import SqlForge.Proofs.Builder.Locality
import SqlForge.Proofs.Builder.Interleaving
import SqlForge.Proofs.Builder.Made
import SqlForge.Proofs.Select.Parts
import SqlForge.Proofs.Builder.Vetted
import SqlForge.Proofs.Builder.VettedRun
import SqlForge.Proofs.Condition.Meaning
import SqlForge.Proofs.Name.Parse
import SqlForge.Proofs.Name.Lexeme
import SqlForge.Proofs.Name.Lexer
import SqlForge.Proofs.Name.Wrap
import SqlForge.Proofs.Select.Containment
import SqlForge.Proofs.Builder.Unsupported
import SqlForge.Proofs.Session.Run
import SqlForge.Proofs.Session.Plan
import SqlForge.Proofs.Session.Logged
import SqlForge.Proofs.Name.Reference
import SqlForge.Proofs.Name.Lookup
import SqlForge.Proofs.Schema.Refusal
import SqlForge.Proofs.Schema.Declared
import SqlForge.Proofs.Schema.Layout
import SqlForge.Proofs.Session.Build
import SqlForge.Proofs.Builder.Passed
import SqlForge.Proofs.Fragment.Basic
import SqlForge.Proofs.Fragment.Woven
import SqlForge.Proofs.Fragment.Part
import SqlForge.Proofs.Fragment.Render
import SqlForge.Proofs.Fragment.Step
import SqlForge.Proofs.Fragment.Call
import SqlForge.Proofs.Fragment.Verbatim
import SqlForge.Proofs.Condition.Implied
import SqlForge.Proofs.Session.Key
import SqlForge.Proofs.Alignment.Source
import SqlForge.Proofs.Dialect.Splice
import SqlForge.Proofs.Dialect.Alike
import SqlForge.Proofs.Dialect.Step
import SqlForge.Proofs.Dialect.Independence
import SqlForge.Proofs.Builder.Compound
import SqlForge.Proofs.Alignment.Snapshot
import SqlForge.Proofs.Record
import SqlForge.Proofs.Alignment.Insert
import SqlForge.Proofs.Select.Window
import SqlForge.Proofs.Session.Pages
import SqlForge.Proofs.Session.Reads
import SqlForge.Proofs.Name.Path
import SqlForge.Proofs.Write.Assigned
import SqlForge.Proofs.Write.Target
import SqlForge.Proofs.Schema.Folding
import SqlForge.Proofs.Schema.Renaming
import SqlForge.Proofs.Schema.Literal
import SqlForge.Proofs.Schema.Quoted
import SqlForge.Proofs.Schema.Sentence
import SqlForge.Proofs.Schema.ColumnLiteral
import SqlForge.Proofs.Select.Within
import SqlForge.Proofs.Write.Within
import SqlForge.Proofs.Write.Lists
import SqlForge.Proofs.Text.Bytes
import SqlForge.Proofs.Number.Integer
import SqlForge.Proofs.Number.Digits
import SqlForge.Proofs.Row.Integer
import SqlForge.Proofs.Session.Integers
import SqlForge.Proofs.Calendar
import SqlForge.Proofs.Uuid
import SqlForge.Proofs.Row.Text
import SqlForge.Proofs.Schema.Clause
import SqlForge.Proofs.Schema.ColumnClause
import SqlForge.Proofs.Session.Tiling

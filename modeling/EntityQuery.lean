import EntityQuery.Config.Loading
import EntityQuery.Context.History
import EntityQuery.Context.Inquiry
import EntityQuery.Database
import EntityQuery.Derive.Description
import EntityQuery.Derive.Entity
import EntityQuery.Json.Reading
import EntityQuery.Json.Text
import EntityQuery.Proofs.Context.Ancestors
import EntityQuery.Proofs.Context.Columns
import EntityQuery.Proofs.Context.Freshness
import EntityQuery.Proofs.Context.History
import EntityQuery.Proofs.Context.Inquiry
import EntityQuery.Proofs.Context.Renaming
import EntityQuery.Proofs.Context.Rendering
import EntityQuery.Proofs.Context.Report
import EntityQuery.Proofs.Path.Ancestor
import EntityQuery.Proofs.Path.Chain
import EntityQuery.Proofs.Path.Renaming
import EntityQuery.Proofs.Path.Stored
import EntityQuery.Proofs.Schema.Calls
import EntityQuery.Proofs.Schema.Registration
import EntityQuery.Proofs.Statement.Failure
import EntityQuery.Proofs.Statement.FilterMeaning
import EntityQuery.Proofs.Template.Walk
import EntityQuery.Value.Tagged
import EntityQuery.Value.Text
import EntityQuery.Proofs.Filter.Alike
import EntityQuery.Proofs.Statement.Alike
import EntityQuery.Proofs.Statement.Clauses
import EntityQuery.Proofs.Statement.Composition
import EntityQuery.Proofs.Statement.Names
import EntityQuery.Proofs.Statement.Parentheses
import EntityQuery.Proofs.Path.Appending
import EntityQuery.Proofs.Context.Appending
import EntityQuery.Proofs.Filter.Combination
import EntityQuery.Proofs.Query.Steps
import EntityQuery.Proofs.Filter.Holding
import EntityQuery.Proofs.Query.Boundary
import EntityQuery.Proofs.Derive.Attribute
import EntityQuery.Proofs.Derive.Type
import EntityQuery.Proofs.Derive.Field
import EntityQuery.Proofs.Derive.Item
import EntityQuery.Proofs.Derive.Evaluation
import EntityQuery.Proofs.Derive.Generation
import EntityQuery.Proofs.Paging.Navigation
import EntityQuery.Proofs.Statement.Acceptance
import EntityQuery.Proofs.Statement.Rows
import EntityQuery.Proofs.Derive.Registration
import EntityQuery.Proofs.Path.Table
import EntityQuery.Proofs.Path.Failure
import EntityQuery.Proofs.Context.Tables
import EntityQuery.Proofs.Path.Alias
import EntityQuery.Proofs.Context.Labels
import EntityQuery.Proofs.Config.Connection
import EntityQuery.Proofs.Context.Joined
import EntityQuery.Proofs.Identifier
import EntityQuery.Proofs.Postgres.Array
import EntityQuery.Proofs.Memo
import EntityQuery.Proofs.Derive.Order
import EntityQuery.Proofs.Filter.Chain
import EntityQuery.Proofs.Value.Tagged
import EntityQuery.Proofs.Filter.NormalForm

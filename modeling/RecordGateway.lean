import RecordGateway.Connection.Scripted
import RecordGateway.Main
import RecordGateway.Proofs.Reading.Predicate
import RecordGateway.Proofs.Request.Binding
import RecordGateway.Proofs.Session.Snapshots
import RecordGateway.Proofs.Statement.Rendering
import RecordGateway.Session
import RecordGateway.Statement.Call
import RecordGateway.Proofs.Statement.Building
import RecordGateway.Proofs.Request.Masking
import RecordGateway.Proofs.Request.NameSearch
import RecordGateway.Proofs.Reading.Quotation
import RecordGateway.Proofs.Statement.Quoting
import RecordGateway.Proofs.Store.Terms
import RecordGateway.Proofs.Number
import RecordGateway.Proofs.Store.Cells
import RecordGateway.Proofs.Store.Tables
import RecordGateway.Proofs.Session.States
import RecordGateway.Proofs.Store.Requests
import RecordGateway.Proofs.Store.Selections
import RecordGateway.Proofs.Store.Matching
import RecordGateway.Proofs.Store.Rewriting
import RecordGateway.Proofs.Gateway.BeforeImage
import RecordGateway.Proofs.Store.Schema
import RecordGateway.Proofs.Statement.Lacking
import RecordGateway.Proofs.Connection.Reporting
import RecordGateway.Proofs.Gateway.Reports
import RecordGateway.Proofs.Store.Ordering
import RecordGateway.Proofs.Value.Trip
import RecordGateway.Proofs.Store.Filters
import RecordGateway.Proofs.Store.Selecting
import RecordGateway.Proofs.Gateway.Finding
import RecordGateway.Proofs.Request.Parts
import RecordGateway.Proofs.Gateway.Writing
import RecordGateway.Proofs.Statement.Clauses
import RecordGateway.Proofs.Store.Inserting
import RecordGateway.Proofs.Store.Removing
import RecordGateway.Proofs.Gateway.Creating
import RecordGateway.Proofs.Gateway.FirstRow
import RecordGateway.Proofs.Reading.ColumnList
import RecordGateway.Proofs.Request.Spelling
import RecordGateway.Proofs.Collecting
import RecordGateway.Proofs.Statement.Filling
import RecordGateway.Proofs.Store.Parameters
import RecordGateway.Proofs.CommandLine.Select
import RecordGateway.Proofs.Store.Aliases
import RecordGateway.Proofs.Configuration.Sources

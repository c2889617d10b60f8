import SensorThings.Binary64.Arithmetic
import SensorThings.Binary64.Basic
import SensorThings.Binary64.Shortest
import SensorThings.Binary64.Text
import SensorThings.Change.Basic
import SensorThings.Change.Config
import SensorThings.Change.Creation
import SensorThings.Change.Movement
import SensorThings.Change.Removal
import SensorThings.Change.Request
import SensorThings.Change.Revision
import SensorThings.Change.Summary
import SensorThings.Draft.Basic
import SensorThings.Draft.Reader
import SensorThings.Draft.Writer
import SensorThings.Filter.Application
import SensorThings.Filter.Condition
import SensorThings.Filter.Evaluation
import SensorThings.Filter.Expression
import SensorThings.Filter.Fault
import SensorThings.Filter.Function
import SensorThings.Filter.Operand
import SensorThings.Filter.Predicate
import SensorThings.Filter.Query
import SensorThings.Filter.Scalar
import SensorThings.Filter.Schema
import SensorThings.Filter.ValueType
import SensorThings.Geometry.Basic
import SensorThings.Geometry.GeoJson
import SensorThings.Geometry.WellKnownText
import SensorThings.Http.Address
import SensorThings.Http.Listing
import SensorThings.Http.Message
import SensorThings.Http.Parameters
import SensorThings.Http.Representation
import SensorThings.Http.Resource
import SensorThings.Http.Routing
import SensorThings.Http.Server
import SensorThings.Http.Submission
import SensorThings.Json.Basic
import SensorThings.Json.Number
import SensorThings.Json.Reader
import SensorThings.Json.Writer
import SensorThings.Model.Columns
import SensorThings.Model.Document
import SensorThings.Model.Entity
import SensorThings.Model.EntityId
import SensorThings.Model.EntityKind
import SensorThings.Model.Failure
import SensorThings.Model.Member
import SensorThings.Model.ObservationType
import SensorThings.Model.ObservedValue
import SensorThings.Model.Roster
import SensorThings.Model.Schema
import SensorThings.Proofs.Binary64.Rounding
import SensorThings.Proofs.Change.Abandon
import SensorThings.Proofs.Change.Bounds
import SensorThings.Proofs.Change.Composed
import SensorThings.Proofs.Change.ComposedRequests
import SensorThings.Proofs.Change.Creation
import SensorThings.Proofs.Change.Dependents
import SensorThings.Proofs.Change.Derivation
import SensorThings.Proofs.Change.DerivedFeatures
import SensorThings.Proofs.Change.Drafting
import SensorThings.Proofs.Change.Extent
import SensorThings.Proofs.Change.Flattening
import SensorThings.Proofs.Change.Footprint
import SensorThings.Proofs.Change.Freshness
import SensorThings.Proofs.Change.Grouping
import SensorThings.Proofs.Change.History
import SensorThings.Proofs.Change.Hull
import SensorThings.Proofs.Change.Identity
import SensorThings.Proofs.Change.Integrity
import SensorThings.Proofs.Change.Lasting
import SensorThings.Proofs.Change.Licensed
import SensorThings.Proofs.Change.Loss
import SensorThings.Proofs.Change.Making
import SensorThings.Proofs.Change.Movement
import SensorThings.Proofs.Change.Moves
import SensorThings.Proofs.Change.Navigation
import SensorThings.Proofs.Change.Nesting
import SensorThings.Proofs.Change.Outline
import SensorThings.Proofs.Change.Patches
import SensorThings.Proofs.Change.Plain
import SensorThings.Proofs.Change.Preserving
import SensorThings.Proofs.Change.Provision
import SensorThings.Proofs.Change.Reachable
import SensorThings.Proofs.Change.References
import SensorThings.Proofs.Change.Relocation
import SensorThings.Proofs.Change.Removal
import SensorThings.Proofs.Change.Removing
import SensorThings.Proofs.Change.Repetition
import SensorThings.Proofs.Change.Reuse
import SensorThings.Proofs.Change.Revision
import SensorThings.Proofs.Change.Run
import SensorThings.Proofs.Change.SharedKeys
import SensorThings.Proofs.Change.Stored
import SensorThings.Proofs.Change.StoredResults
import SensorThings.Proofs.Change.Storing
import SensorThings.Proofs.Change.Success
import SensorThings.Proofs.Change.Summarized
import SensorThings.Proofs.Change.Summary
import SensorThings.Proofs.Change.Surviving
import SensorThings.Proofs.Change.Typing
import SensorThings.Proofs.Change.Units
import SensorThings.Proofs.Change.Writing
import SensorThings.Proofs.Draft.Owned
import SensorThings.Proofs.Draft.Reading
import SensorThings.Proofs.Draft.Represented
import SensorThings.Proofs.Draft.Sent
import SensorThings.Proofs.Filter.Comparison
import SensorThings.Proofs.Filter.Compilation
import SensorThings.Proofs.Filter.Connectives
import SensorThings.Proofs.Filter.Consistency
import SensorThings.Proofs.Filter.Equality
import SensorThings.Proofs.Filter.Integers
import SensorThings.Proofs.Filter.Meaning
import SensorThings.Proofs.Filter.Order
import SensorThings.Proofs.Filter.Refusal
import SensorThings.Proofs.Filter.Signature
import SensorThings.Proofs.Filter.Soundness
import SensorThings.Proofs.Filter.Texts
import SensorThings.Proofs.Filter.Transitivity
import SensorThings.Proofs.Geometry.Assembly
import SensorThings.Proofs.Geometry.Scanning
import SensorThings.Proofs.Geometry.Slips
import SensorThings.Proofs.Geometry.Spelling
import SensorThings.Proofs.Geometry.WellKnownText
import SensorThings.Proofs.Geometry.Writing
import SensorThings.Proofs.Http.Children
import SensorThings.Proofs.Http.Links
import SensorThings.Proofs.Http.Listing
import SensorThings.Proofs.Http.Parameters
import SensorThings.Proofs.Http.Refusals
import SensorThings.Proofs.Http.Relations
import SensorThings.Proofs.Http.Requests
import SensorThings.Proofs.Http.Resources
import SensorThings.Proofs.Http.Selection
import SensorThings.Proofs.Http.Walk
import SensorThings.Proofs.Json.Members
import SensorThings.Proofs.Json.Numbers
import SensorThings.Proofs.Model.Columns
import SensorThings.Proofs.Model.Documents
import SensorThings.Proofs.Model.Geometries
import SensorThings.Proofs.Model.Results
import SensorThings.Proofs.Sequencing
import SensorThings.Proofs.Spatial.Exchange
import SensorThings.Proofs.Spatial.Pieces
import SensorThings.Proofs.Spatial.Spots
import SensorThings.Proofs.Spatial.Transposition
import SensorThings.Proofs.Store.Created
import SensorThings.Proofs.Store.Links
import SensorThings.Proofs.Store.Loading
import SensorThings.Proofs.Store.Paging
import SensorThings.Proofs.Store.Pending
import SensorThings.Proofs.Store.Rollback
import SensorThings.Proofs.Store.Sorting
import SensorThings.Proofs.Store.View
import SensorThings.Proofs.Text.Digits
import SensorThings.Proofs.Text.Octets
import SensorThings.Proofs.Text.Search
import SensorThings.Proofs.Text.Split
import SensorThings.Proofs.Text.Words
import SensorThings.Proofs.Time.Order
import SensorThings.Proofs.Time.Rereading
import SensorThings.Proofs.Time.Texts
import SensorThings.Spatial.Matrix
import SensorThings.Spatial.Measure
import SensorThings.Spatial.Plane
import SensorThings.Spatial.Relate
import SensorThings.Spatial.Relation
import SensorThings.Spatial.Shape
import SensorThings.Store.Navigation
import SensorThings.Store.Query
import SensorThings.Store.Tables
import SensorThings.Store.Transaction
import SensorThings.Text.Blank
import SensorThings.Text.Case
import SensorThings.Text.CaseTable
import SensorThings.Text.Integer
import SensorThings.Text.Octets
import SensorThings.Text.Search
import SensorThings.Text.Split
import SensorThings.Time.Date
import SensorThings.Time.Instant
import SensorThings.Time.Interval
import SensorThings.Time.Reader
import SensorThings.Time.TimeOfDay

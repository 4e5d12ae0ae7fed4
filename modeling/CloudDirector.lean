import CloudDirector.Base64
import CloudDirector.Calendar.Date
import CloudDirector.Calendar.DateTime
import CloudDirector.Calendar.Iso
import CloudDirector.Calendar.Layout
import CloudDirector.Catalog.Registry
import CloudDirector.Catalog.Schema
import CloudDirector.Catalog.SchemaJson
import CloudDirector.Catalog.Validation
import CloudDirector.Client.Config
import CloudDirector.Client.Dialect
import CloudDirector.Client.Download
import CloudDirector.Client.Envelope
import CloudDirector.Client.Exchange
import CloudDirector.Client.Query
import CloudDirector.Client.Reply
import CloudDirector.Client.Request
import CloudDirector.Client.Session
import CloudDirector.Client.Setting
import CloudDirector.Client.Version
import CloudDirector.Derive.Code
import CloudDirector.Derive.Definition
import CloudDirector.Derive.Expansion
import CloudDirector.Derive.Item
import CloudDirector.Derive.Lexer
import CloudDirector.Derive.Literal
import CloudDirector.Derive.Options
import CloudDirector.Derive.Token
import CloudDirector.Failure
import CloudDirector.Json.Basic
import CloudDirector.Json.Numeral
import CloudDirector.Json.Parser
import CloudDirector.Json.Printer
import CloudDirector.Log.Level
import CloudDirector.Log.Notice
import CloudDirector.Members
import CloudDirector.Navigation.Link
import CloudDirector.Navigation.LinkHeader
import CloudDirector.Number.Binary64
import CloudDirector.Number.Numeral
import CloudDirector.Number.Unsigned
import CloudDirector.Payload.Decode
import CloudDirector.Payload.Encode
import CloudDirector.Payload.Notices
import CloudDirector.Payload.Scalar
import CloudDirector.Shape.Descriptor
import CloudDirector.Shape.Expression
import CloudDirector.Tasks.Polling
import CloudDirector.Tasks.Task
import CloudDirector.Text.Alphanumeric
import CloudDirector.Text.Blank
import CloudDirector.Text.CamelCase
import CloudDirector.Text.Case
import CloudDirector.Text.Hex
import CloudDirector.Text.Quoted
import CloudDirector.Text.Range
import CloudDirector.Text.Split
import CloudDirector.Text.Utf8
import CloudDirector.Text.Visible
import CloudDirector.Typed.Builtin
import CloudDirector.Typed.Conversion
import CloudDirector.Typed.Declaration
import CloudDirector.Typed.Model
import CloudDirector.Value.Basic
import CloudDirector.Web.Header
import CloudDirector.Web.Host
import CloudDirector.Web.Method
import CloudDirector.Web.Percent
import CloudDirector.Web.Status
import CloudDirector.Web.Url
import CloudDirector.Proofs.Catalog.Registration
import CloudDirector.Proofs.Calendar.Days
import CloudDirector.Proofs.Calendar.Reading
import CloudDirector.Proofs.Catalog.Inheritance
import CloudDirector.Proofs.Base64
import CloudDirector.Proofs.Binary64
import CloudDirector.Proofs.Calendar.Clock
import CloudDirector.Proofs.Calendar.Parts
import CloudDirector.Proofs.Calendar.Layouts
import CloudDirector.Proofs.Calendar.Zulu
import CloudDirector.Proofs.Payload.Dispatch
import CloudDirector.Proofs.Payload.Scalar
import CloudDirector.Proofs.Payload.Records
import CloudDirector.Proofs.Payload.RoundTrip
import CloudDirector.Proofs.Payload.Soundness
import CloudDirector.Proofs.Payload.Stability
import CloudDirector.Proofs.Payload.Dates
import CloudDirector.Proofs.Payload.Subtypes
import CloudDirector.Proofs.Catalog.Acceptance
import CloudDirector.Proofs.Catalog.Calls
import CloudDirector.Proofs.Catalog.Places
import CloudDirector.Proofs.Payload.Objects
import CloudDirector.Proofs.Payload.Refusals
import CloudDirector.Proofs.Payload.Faults
import CloudDirector.Proofs.Catalog.Order
import CloudDirector.Proofs.Catalog.Overrides
import CloudDirector.Proofs.Catalog.Builtin
import CloudDirector.Proofs.Json.DistinctKeys
import CloudDirector.Proofs.Navigation.Link
import CloudDirector.Proofs.Client.Requests
import CloudDirector.Proofs.Client.Replies
import CloudDirector.Proofs.Client.Extraction
import CloudDirector.Proofs.Derive.Enumeration
import CloudDirector.Proofs.Payload.Undeclared
import CloudDirector.Proofs.Typed.Values
import CloudDirector.Proofs.Typed.RoundTrip
import CloudDirector.Proofs.Typed.Inhabited
import CloudDirector.Proofs.Typed.Registered
import CloudDirector.Proofs.Typed.Schema
import CloudDirector.Proofs.Typed.Wire
import CloudDirector.Proofs.Typed.Tasks
import CloudDirector.Proofs.Text.Runs
import CloudDirector.Proofs.Shape.Grammar
import CloudDirector.Proofs.Shape.Printing
import CloudDirector.Proofs.Tasks.Status
import CloudDirector.Proofs.Tasks.Polling
import CloudDirector.Proofs.Payload.Trails
import CloudDirector.Proofs.Client.Unregistered
import CloudDirector.Proofs.Payload.Edits
import CloudDirector.Proofs.Payload.Nulls
import CloudDirector.Proofs.Typed.Bases
import CloudDirector.Proofs.Navigation.HeaderGrammar
import CloudDirector.Proofs.Navigation.HeaderRendering
import CloudDirector.Proofs.Navigation.HeaderTargets
import CloudDirector.Proofs.Catalog.Polymorphism
import CloudDirector.Proofs.Payload.RawJson
import CloudDirector.Proofs.Unsigned
import CloudDirector.Proofs.Client.Versions

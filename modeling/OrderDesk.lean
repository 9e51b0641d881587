import OrderDesk.Calendar
import OrderDesk.Decimal
import OrderDesk.Decimal.Text
import OrderDesk.Dialogue
import OrderDesk.Documents.Order
import OrderDesk.Documents.Placement
import OrderDesk.Documents.Product
import OrderDesk.Double
import OrderDesk.Double.Shortest
import OrderDesk.Double.Shown
import OrderDesk.Duration
import OrderDesk.Failure
import OrderDesk.Http.Api
import OrderDesk.Http.Headers
import OrderDesk.Http.MediaType
import OrderDesk.Http.Request
import OrderDesk.Http.Response
import OrderDesk.Identifier
import OrderDesk.Instant
import OrderDesk.Instant.Text
import OrderDesk.Json.Binding
import OrderDesk.Json.Leaf
import OrderDesk.Json.Node
import OrderDesk.Json.Numeral
import OrderDesk.Json.Numeral.Reader
import OrderDesk.Json.Quoted
import OrderDesk.Json.Record
import OrderDesk.Json.Token
import OrderDesk.Json.Value
import OrderDesk.Listing.Form
import OrderDesk.Listing.Page
import OrderDesk.Listing.Parameters
import OrderDesk.Listing.Query
import OrderDesk.Memory.Catalog
import OrderDesk.Memory.Disturbance
import OrderDesk.Memory.Store
import OrderDesk.Order
import OrderDesk.Order.Code
import OrderDesk.Order.Status
import OrderDesk.Placement
import OrderDesk.Product
import OrderDesk.Proofs.Decimal
import OrderDesk.Proofs.Desk
import OrderDesk.Proofs.Desk.Errands
import OrderDesk.Proofs.Desk.Later
import OrderDesk.Proofs.Desk.Lifecycle
import OrderDesk.Proofs.Desk.Race
import OrderDesk.Proofs.Desk.Steps
import OrderDesk.Proofs.Desk.Versions
import OrderDesk.Proofs.Dialogue.Steps
import OrderDesk.Proofs.Listing.Page
import OrderDesk.Proofs.Memory.Deeds
import OrderDesk.Proofs.Memory.Faults
import OrderDesk.Proofs.Service
import OrderDesk.Proofs.Service.Failures
import OrderDesk.Service
import OrderDesk.Service.Call
import OrderDesk.Settings
import OrderDesk.Sql.Exchange
import OrderDesk.Sql.Schema
import OrderDesk.Sql.Statement
import OrderDesk.Sql.Store
import OrderDesk.Text.Blank
import OrderDesk.Text.Hex
import OrderDesk.Text.Hidden
import OrderDesk.Text.Numeral
import OrderDesk.Text.Octet
import OrderDesk.Text.Percent
import OrderDesk.Text.Shown
import OrderDesk.Text.Utf8
import OrderDesk.Proofs.Listing.Arrangement
import OrderDesk.Proofs.Listing.Descriptor
import OrderDesk.Proofs.Listing.Pages
import OrderDesk.Proofs.Placement
import OrderDesk.Proofs.Service.Placing
import OrderDesk.Proofs.Desk.Aggregates
import OrderDesk.Proofs.Documents
import OrderDesk.Proofs.Documents.RoundTrip
import OrderDesk.Proofs.Http.Isolation
import OrderDesk.Proofs.Dialogue.Conversation
import OrderDesk.Proofs.Sql.Placement
import OrderDesk.Proofs.Sql.Exchange
import OrderDesk.Proofs.Sql.Listing
import OrderDesk.Proofs.Database.Values
import OrderDesk.Proofs.Text.Utf8
import OrderDesk.Proofs.Database.Tables
import OrderDesk.Proofs.Database.Calls
import OrderDesk.Proofs.Database.Operations
import OrderDesk.Proofs.Database.Mirroring
import OrderDesk.Proofs.Database.Binding
import OrderDesk.Proofs.Listing.Ties
import OrderDesk.Proofs.Database.Listing
import OrderDesk.Proofs.Service.Cancelling
import OrderDesk.Proofs.Service.Independence
import OrderDesk.Proofs.Http.Conveyance
import OrderDesk.Proofs.Http.Envelopes
import OrderDesk.Proofs.Http.Discretion
import OrderDesk.Proofs.Decimal.Exact
import OrderDesk.Proofs.Pricing
import OrderDesk.Proofs.Identifier
import OrderDesk.Proofs.Http.Identification
import OrderDesk.Proofs.Desk.Cancellations
import OrderDesk.Proofs.Service.Lookups
import OrderDesk.Proofs.Text.Blank
import OrderDesk.Proofs.Placement.Validation
import OrderDesk.Proofs.Sql.Assembly
import OrderDesk.Proofs.Sql.StatusWrites
import OrderDesk.Proofs.Text.Numeral
import OrderDesk.Proofs.Listing.Settings
import OrderDesk.Proofs.Listing.Parameters
import OrderDesk.Proofs.Listing.Form
import OrderDesk.Proofs.Http.Spellings
import OrderDesk.Proofs.Json.Members
import OrderDesk.Proofs.Json.Renaming
import OrderDesk.Proofs.Documents.Placement
import OrderDesk.Proofs.Traversal
import OrderDesk.Proofs.Settings
import OrderDesk.Proofs.Sorting
import OrderDesk.Proofs.Http.Logging
import OrderDesk.Proofs.Http.Correlation
import OrderDesk.Proofs.Calendar.Succession
import OrderDesk.Proofs.Order.Code

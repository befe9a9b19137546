import SearchBuilder.Catalog
import SearchBuilder.Catalog.Aggregations
import SearchBuilder.Catalog.Facets
import SearchBuilder.Catalog.Filters
import SearchBuilder.Catalog.Queries
import SearchBuilder.Catalog.Scores
import SearchBuilder.Catalog.Search
import SearchBuilder.Catalog.Suggesters
import SearchBuilder.Catalog.Words
import SearchBuilder.Client.Address
import SearchBuilder.Client.Backoff
import SearchBuilder.Client.Http
import SearchBuilder.Client.Platform
import SearchBuilder.Client.Transport
import SearchBuilder.Client.Url
import SearchBuilder.Config.Connect
import SearchBuilder.Config.Load
import SearchBuilder.Config.Merge
import SearchBuilder.Config.Settings
import SearchBuilder.Document.Accessor
import SearchBuilder.Document.Argument
import SearchBuilder.Document.Body
import SearchBuilder.Document.Bucket
import SearchBuilder.Document.Category
import SearchBuilder.Document.Combine
import SearchBuilder.Document.Decay
import SearchBuilder.Document.Field
import SearchBuilder.Document.Geo
import SearchBuilder.Document.Highlight
import SearchBuilder.Document.Kind
import SearchBuilder.Document.Node
import SearchBuilder.Document.Operation
import SearchBuilder.Document.Outcome
import SearchBuilder.Document.Part
import SearchBuilder.Document.Predicate
import SearchBuilder.Document.Sort
import SearchBuilder.Document.Suggestion
import SearchBuilder.Json.Basic
import SearchBuilder.Json.Display
import SearchBuilder.Json.Parser
import SearchBuilder.Json.Printer
import SearchBuilder.Json.StringLiteral
import SearchBuilder.Json.Writing
import SearchBuilder.Log.Clock
import SearchBuilder.Log.Level
import SearchBuilder.Log.Setup
import SearchBuilder.Number.Binary64
import SearchBuilder.Number.Notation
import SearchBuilder.Number.Shortest
import SearchBuilder.Proofs.Catalog.Construction
import SearchBuilder.Proofs.Catalog.Enumerations
import SearchBuilder.Proofs.Catalog.Texts
import SearchBuilder.Proofs.Client.Answer
import SearchBuilder.Proofs.Client.Backoff
import SearchBuilder.Proofs.Client.Exhaustion
import SearchBuilder.Proofs.Client.Pause
import SearchBuilder.Proofs.Client.Retry
import SearchBuilder.Proofs.Client.Sent
import SearchBuilder.Proofs.Client.Server
import SearchBuilder.Proofs.Config.Checks
import SearchBuilder.Proofs.Config.Layers
import SearchBuilder.Proofs.Config.Password
import SearchBuilder.Proofs.Config.Paths
import SearchBuilder.Proofs.Config.Settings
import SearchBuilder.Proofs.Document.Accessors
import SearchBuilder.Proofs.Document.Arguments
import SearchBuilder.Proofs.Document.Children
import SearchBuilder.Proofs.Document.Clauses
import SearchBuilder.Proofs.Document.Enumerations
import SearchBuilder.Proofs.Document.Frame
import SearchBuilder.Proofs.Document.Grammar
import SearchBuilder.Proofs.Document.Highlights
import SearchBuilder.Proofs.Document.Insertion
import SearchBuilder.Proofs.Document.Interference
import SearchBuilder.Proofs.Document.Lists
import SearchBuilder.Proofs.Document.Locality
import SearchBuilder.Proofs.Document.Merging
import SearchBuilder.Proofs.Document.Methods
import SearchBuilder.Proofs.Document.Names
import SearchBuilder.Proofs.Document.Points
import SearchBuilder.Proofs.Document.Refusal
import SearchBuilder.Proofs.Document.Renaming
import SearchBuilder.Proofs.Document.Settings
import SearchBuilder.Proofs.Document.Shape
import SearchBuilder.Proofs.Document.Soundness
import SearchBuilder.Proofs.Document.Spots
import SearchBuilder.Proofs.Document.Steps
import SearchBuilder.Proofs.Document.Texts
import SearchBuilder.Proofs.Json.Entries
import SearchBuilder.Proofs.Json.Extension
import SearchBuilder.Proofs.Json.Literal
import SearchBuilder.Proofs.Json.Numeral
import SearchBuilder.Proofs.Json.Path
import SearchBuilder.Proofs.Json.RoundTrip
import SearchBuilder.Proofs.Json.Writing
import SearchBuilder.Proofs.Log.Records
import SearchBuilder.Proofs.Number.Rounding
import SearchBuilder.Proofs.Request.Enumerations
import SearchBuilder.Proofs.Request.Path
import SearchBuilder.Proofs.Request.Sections
import SearchBuilder.Proofs.Request.Sorting
import SearchBuilder.Proofs.Request.Target
import SearchBuilder.Proofs.Request.Texts
import SearchBuilder.Proofs.Session.Discipline
import SearchBuilder.Proofs.Session.Dispatch
import SearchBuilder.Proofs.Session.Documents
import SearchBuilder.Proofs.Session.Enumerations
import SearchBuilder.Proofs.Session.Events
import SearchBuilder.Proofs.Session.History
import SearchBuilder.Proofs.Session.Insertion
import SearchBuilder.Proofs.Session.Lists
import SearchBuilder.Proofs.Session.Names
import SearchBuilder.Proofs.Session.Points
import SearchBuilder.Proofs.Session.Refusal
import SearchBuilder.Proofs.Session.Safety
import SearchBuilder.Proofs.Session.Sections
import SearchBuilder.Proofs.Session.Shape
import SearchBuilder.Proofs.Session.Sorting
import SearchBuilder.Proofs.Session.Texts
import SearchBuilder.Proofs.Session.Wire
import SearchBuilder.Proofs.Text.Hex
import SearchBuilder.Proofs.Text.Percent
import SearchBuilder.Proofs.Text.Split
import SearchBuilder.Request
import SearchBuilder.Session
import SearchBuilder.Session.Client
import SearchBuilder.Session.Configure
import SearchBuilder.Session.Object
import SearchBuilder.Session.Operand
import SearchBuilder.Session.Program
import SearchBuilder.Text.Blank
import SearchBuilder.Text.Case
import SearchBuilder.Text.Cased
import SearchBuilder.Text.Hex
import SearchBuilder.Text.Percent
import SearchBuilder.Text.Printable
import SearchBuilder.Text.Quoted
import SearchBuilder.Text.Split
import SearchBuilder.Yaml.Cursor
import SearchBuilder.Yaml.Number
import SearchBuilder.Yaml.Reader
import SearchBuilder.Yaml.Scalar

import BrowserSessions.Text.Utf8
import BrowserSessions.Text.Case
import BrowserSessions.Decimal.Shortest
import BrowserSessions.Decimal.Text
import BrowserSessions.Json.Basic
import BrowserSessions.Json.Print
import BrowserSessions.Json.Parse
import BrowserSessions.Json.Shape
import BrowserSessions.Url.Percent
import BrowserSessions.Url.Basic
import BrowserSessions.Url.Parse
import BrowserSessions.Url.Render
import BrowserSessions.Url.Query
import BrowserSessions.Url.Classify
import BrowserSessions.Idna.Punycode
import BrowserSessions.Idna.Table
import BrowserSessions.Text.Bidi
import BrowserSessions.Text.Normal
import BrowserSessions.Idna.Label
import BrowserSessions.Idna.Display
import BrowserSessions.Text.Ranges
import BrowserSessions.Text.Quote
import BrowserSessions.Text.Numeral
import BrowserSessions.Ulid
import BrowserSessions.Identifier
import BrowserSessions.Loose
import BrowserSessions.Intent
import BrowserSessions.Html.Entity
import BrowserSessions.Html.Reference
import BrowserSessions.Html.Tokenize
import BrowserSessions.Html.Sanitize
import BrowserSessions.CustomTab
import BrowserSessions.Decimal.Read
import BrowserSessions.Duration
import BrowserSessions.Clock
import BrowserSessions.Breaker
import BrowserSessions.Domains
import BrowserSessions.Settings
import BrowserSessions.Yaml
import BrowserSessions.Toml
import BrowserSessions.Config
import BrowserSessions.Logging
import BrowserSessions.Session
import BrowserSessions.Registry
import BrowserSessions.Launch
import BrowserSessions.TaskLoop
import BrowserSessions.Metrics
import BrowserSessions.RateLimit
import BrowserSessions.Stream
import BrowserSessions.Search.Engine
import BrowserSessions.Search.Catalog
import BrowserSessions.Search.Suggest
import BrowserSessions.Search.Manager
import BrowserSessions.Http.Message
import BrowserSessions.Http.Bind
import BrowserSessions.Http.Address
import BrowserSessions.Http.Cors
import BrowserSessions.Http.RouteTree
import BrowserSessions.Http.Wire
import BrowserSessions.Api.Service
import BrowserSessions.Api.Handlers
import BrowserSessions.Api.Admin
import BrowserSessions.Api.App
import BrowserSessions.Server
import BrowserSessions.CommandLine
import BrowserSessions.Main
import BrowserSessions.Proofs.Registry.Call
import BrowserSessions.Proofs.Registry.History
import BrowserSessions.Proofs.Registry.WellFormed
import BrowserSessions.Proofs.Registry.Quiet
import BrowserSessions.Proofs.Registry.Ledger
import BrowserSessions.Proofs.Registry.Frame
import BrowserSessions.Proofs.Registry.Delivery
import BrowserSessions.Proofs.Text.Bytes
import BrowserSessions.Proofs.Url.Escape
import BrowserSessions.Proofs.Url.Hierarchical
import BrowserSessions.Proofs.Search.Template
import BrowserSessions.Proofs.Search.Default
import BrowserSessions.Proofs.Search.Bundled
import BrowserSessions.Proofs.Api.Layers
import BrowserSessions.Proofs.Api.EngineChoice
import BrowserSessions.Proofs.Api.Intents
import BrowserSessions.Proofs.Api.Credentials
import BrowserSessions.Proofs.Breaker.Interleaving
import BrowserSessions.Proofs.Metrics.Series
import BrowserSessions.Proofs.Registry.Counters
import BrowserSessions.Proofs.Loop.Protocol
import BrowserSessions.Proofs.Loop.Tasks
import BrowserSessions.Proofs.Registry.Promotion
import BrowserSessions.Proofs.Registry.Launch
import BrowserSessions.Proofs.Stream.Protocol
import BrowserSessions.Proofs.Stream.Runtime
import BrowserSessions.Proofs.Domains.Edits
import BrowserSessions.Proofs.Domains.Stored
import BrowserSessions.Proofs.Url.TrailingSlash
import BrowserSessions.Proofs.Registry.Cancel
import BrowserSessions.Proofs.Breaker.Sequential
import BrowserSessions.Proofs.Search.Circuit
import BrowserSessions.Proofs.Text.Positional
import BrowserSessions.Proofs.Identifier.RoundTrip
import BrowserSessions.Proofs.CustomTab.Chrome
import BrowserSessions.Proofs.Search.Recovery

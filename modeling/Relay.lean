import Relay.Decimal.Binary64
import Relay.Decimal.Numeral
import Relay.Decimal.Shortest
import Relay.Decimal.Stepwise
import Relay.Exchange.Gateway
import Relay.Exchange.Identity
import Relay.Exchange.Logging
import Relay.Exchange.Pipeline
import Relay.Exchange.Requests
import Relay.Exchange.Responses
import Relay.Exchange.RuleRun
import Relay.Exchange.Run
import Relay.Exchange.Stage
import Relay.Http.Body
import Relay.Http.Headers
import Relay.Http.Message
import Relay.Http.Query
import Relay.Http.Token
import Relay.Http.Uri
import Relay.Identity.Uuid
import Relay.Json.Basic
import Relay.Json.Edit
import Relay.Json.Edit.Document
import Relay.Json.Error
import Relay.Json.Location
import Relay.Json.Members
import Relay.Json.Number
import Relay.Json.Path
import Relay.Json.Path.Reader
import Relay.Json.Printer
import Relay.Json.Reader
import Relay.Json.Skip
import Relay.Json.Token
import Relay.Proofs.Decimal.Rounding
import Relay.Proofs.Decimal.ShortestReadsBack
import Relay.Proofs.Decimal.Stepwise
import Relay.Proofs.Exchange.Accounting
import Relay.Proofs.Exchange.Correlation
import Relay.Proofs.Exchange.Course
import Relay.Proofs.Exchange.Deletion
import Relay.Proofs.Exchange.Descriptions
import Relay.Proofs.Exchange.Discretion
import Relay.Proofs.Exchange.Framing
import Relay.Proofs.Exchange.Identity
import Relay.Proofs.Exchange.Interleaving
import Relay.Proofs.Exchange.LazyBuffering
import Relay.Proofs.Exchange.OneRoute
import Relay.Proofs.Exchange.Order
import Relay.Proofs.Exchange.PassThrough
import Relay.Proofs.Exchange.PlainEdits
import Relay.Proofs.Exchange.Report
import Relay.Proofs.Exchange.RequiredHeader
import Relay.Proofs.Exchange.RulesRun
import Relay.Proofs.Exchange.Transparency
import Relay.Proofs.Http.QueryGroups
import Relay.Proofs.Http.QueryRoundTrip
import Relay.Proofs.Identity.Spelling
import Relay.Proofs.Json.Addressing
import Relay.Proofs.Json.BlankText
import Relay.Proofs.Json.DocumentOrder
import Relay.Proofs.Json.EditedDocument
import Relay.Proofs.Json.EditedText
import Relay.Proofs.Json.Legible
import Relay.Proofs.Json.Locating
import Relay.Proofs.Json.Masking
import Relay.Proofs.Json.Merging
import Relay.Proofs.Json.Naming
import Relay.Proofs.Json.NamingOrder
import Relay.Proofs.Json.Nesting
import Relay.Proofs.Json.NumberText
import Relay.Proofs.Json.Overlay
import Relay.Proofs.Json.Passages
import Relay.Proofs.Json.PathForm
import Relay.Proofs.Json.PathGrammar
import Relay.Proofs.Json.Pruning
import Relay.Proofs.Json.ReadBack
import Relay.Proofs.Json.Removing
import Relay.Proofs.Json.Renaming
import Relay.Proofs.Json.RenamingBack
import Relay.Proofs.Json.Replacing
import Relay.Proofs.Json.Reread
import Relay.Proofs.Json.Rewriting
import Relay.Proofs.Json.StringText
import Relay.Proofs.Json.Walking
import Relay.Proofs.Json.Yields
import Relay.Proofs.Route.FirstMatch
import Relay.Proofs.Route.Matching
import Relay.Proofs.Route.Resolution
import Relay.Proofs.Rule.Deletion
import Relay.Proofs.Rule.Frame
import Relay.Proofs.Rule.HeaderNames
import Relay.Proofs.Rule.Interleaving
import Relay.Proofs.Rule.Plain
import Relay.Proofs.Rule.QueryParameter
import Relay.Proofs.Rule.Replacement
import Relay.Proofs.Rule.Required
import Relay.Proofs.Rule.Sequence
import Relay.Proofs.Rule.Step
import Relay.Proofs.Rule.Threading
import Relay.Proofs.Rule.Unaltered
import Relay.Proofs.Rule.Wire
import Relay.Proofs.Schema.Omission
import Relay.Proofs.Schema.Reading
import Relay.Proofs.Schema.Skipping
import Relay.Proofs.Schema.Writing
import Relay.Proofs.Settings.Layers
import Relay.Proofs.Settings.Overrides
import Relay.Proofs.Settings.Validation
import Relay.Proofs.Settings.Variables
import Relay.Proofs.Settings.Wire
import Relay.Proofs.Text.CaseFold
import Relay.Proofs.Text.Mask
import Relay.Proofs.Text.Percent
import Relay.Regex.Basic
import Relay.Regex.Reader
import Relay.Regex.Usable
import Relay.Route.Basic
import Relay.Route.Pattern
import Relay.Route.Table
import Relay.Route.Wire
import Relay.Rule.Basic
import Relay.Rule.Outcome
import Relay.Rule.Request
import Relay.Rule.Response
import Relay.Rule.Wire
import Relay.Schema
import Relay.Settings.Basic
import Relay.Settings.DotEnv
import Relay.Settings.Environment
import Relay.Settings.Error
import Relay.Settings.Files
import Relay.Settings.Loading
import Relay.Settings.Validation
import Relay.Settings.Wire
import Relay.Telemetry.Counter
import Relay.Telemetry.Event
import Relay.Telemetry.Filter
import Relay.Telemetry.LogSettings
import Relay.Text.Alphanumeric
import Relay.Text.Blank
import Relay.Text.CaseFold
import Relay.Text.CodePoints
import Relay.Text.Digits
import Relay.Text.Mask
import Relay.Text.Percent
import Relay.Text.Printable
import Relay.Text.Quoted
import Relay.Text.Upper
import Relay.Text.Utf8
import Relay.Time.Instant
import Relay.Toml.Lexeme
import Relay.Toml.Reader
import Relay.Toml.Scalar
import Relay.Toml.Table
import Relay.Toml.Value

import CloudClient.Auth.Credential
import CloudClient.Auth.Iam
import CloudClient.Auth.Moment
import CloudClient.Binary64
import CloudClient.Call.Http
import CloudClient.Call.Naming
import CloudClient.Call.Offline
import CloudClient.Call.Prepared
import CloudClient.Call.Request
import CloudClient.Call.Rest
import CloudClient.Call.Transport
import CloudClient.Catalog.Item
import CloudClient.Catalog.Package
import CloudClient.Catalog.Pricing
import CloudClient.Client
import CloudClient.Client.Journal
import CloudClient.Client.Pager
import CloudClient.Client.Plan
import CloudClient.Client.Polling
import CloudClient.Client.Resolver
import CloudClient.Client.Script
import CloudClient.Client.Setup
import CloudClient.Client.Sharing
import CloudClient.CommandLine
import CloudClient.CommandLine.Arguments
import CloudClient.CommandLine.Command
import CloudClient.Decimal.Layout
import CloudClient.Decimal.Reader
import CloudClient.Decimal.Shortest
import CloudClient.Failure
import CloudClient.Failure.FaultKind
import CloudClient.Failure.Report
import CloudClient.Fields
import CloudClient.Guests
import CloudClient.Json
import CloudClient.Json.Printer
import CloudClient.Json.Reader
import CloudClient.Json.Record
import CloudClient.Main
import CloudClient.Ordering
import CloudClient.Ordering.Request
import CloudClient.Proofs.Admission
import CloudClient.Proofs.Attempts
import CloudClient.Proofs.Changes
import CloudClient.Proofs.Containers
import CloudClient.Proofs.Curl
import CloudClient.Proofs.Custody
import CloudClient.Proofs.Decimal.Layout
import CloudClient.Proofs.Decimal.RoundTrip
import CloudClient.Proofs.Decimal.Shortest
import CloudClient.Proofs.Encodings
import CloudClient.Proofs.Exchanges
import CloudClient.Proofs.Identifiers
import CloudClient.Proofs.Journal
import CloudClient.Proofs.Json.Exact
import CloudClient.Proofs.Json.Number
import CloudClient.Proofs.Json.Reading
import CloudClient.Proofs.Json.RoundTrip
import CloudClient.Proofs.Pages
import CloudClient.Proofs.Paths
import CloudClient.Proofs.Placement
import CloudClient.Proofs.Polling
import CloudClient.Proofs.Prices
import CloudClient.Proofs.Progress
import CloudClient.Proofs.Query.Acceptance
import CloudClient.Proofs.Query.Bracket
import CloudClient.Proofs.Query.Carried
import CloudClient.Proofs.Query.Composed
import CloudClient.Proofs.Query.Kept
import CloudClient.Proofs.Query.MaskText
import CloudClient.Proofs.Query.Merge
import CloudClient.Proofs.Query.Nesting
import CloudClient.Proofs.Query.Order
import CloudClient.Proofs.Query.Path
import CloudClient.Proofs.Query.Placed
import CloudClient.Proofs.Query.Reserved
import CloudClient.Proofs.Query.Servers
import CloudClient.Proofs.Query.Union
import CloudClient.Proofs.Query.Wildcard
import CloudClient.Proofs.Query.WireForm
import CloudClient.Proofs.Query.Wrapped
import CloudClient.Proofs.Replies
import CloudClient.Proofs.Records
import CloudClient.Proofs.Renewal
import CloudClient.Proofs.Reproduction
import CloudClient.Proofs.Rest
import CloudClient.Proofs.Retriable
import CloudClient.Proofs.Rounding
import CloudClient.Proofs.Settings.Ini
import CloudClient.Proofs.Settings.Section
import CloudClient.Proofs.Settings.Sources
import CloudClient.Proofs.Settings.Variable
import CloudClient.Proofs.Sharing
import CloudClient.Proofs.SingleFlight
import CloudClient.Proofs.Slots
import CloudClient.Proofs.Text.Numeral
import CloudClient.Proofs.Text.Shell
import CloudClient.Proofs.Text.Split
import CloudClient.Proofs.Text.Trim
import CloudClient.Proofs.Text.Utf8
import CloudClient.Proofs.Tokens
import CloudClient.Proofs.Url.Address
import CloudClient.Proofs.Url.Form
import CloudClient.Proofs.Url.Path
import CloudClient.Proofs.Watch
import CloudClient.Proofs.Windows
import CloudClient.Proofs.Xml.Content
import CloudClient.Proofs.Xml.Escape
import CloudClient.Proofs.XmlRpc.Call
import CloudClient.Proofs.XmlRpc.RoundTrip
import CloudClient.Query.Date
import CloudClient.Query.Filter
import CloudClient.Query.Mask
import CloudClient.Query.Shorthand
import CloudClient.Retry
import CloudClient.Settings
import CloudClient.Settings.Ini
import CloudClient.Settings.Variable
import CloudClient.Settings.Yaml
import CloudClient.Settings.Yaml.Block
import CloudClient.Settings.Yaml.Cursor
import CloudClient.Settings.Yaml.Flow
import CloudClient.Settings.Yaml.Gap
import CloudClient.Settings.Yaml.Node
import CloudClient.Settings.Yaml.Scalar
import CloudClient.Settings.Yaml.Tag
import CloudClient.Settings.Yaml.Token
import CloudClient.Text.Base64
import CloudClient.Text.Blank
import CloudClient.Text.Case
import CloudClient.Text.CodeRow
import CloudClient.Text.Integer
import CloudClient.Text.Mark
import CloudClient.Text.Normal
import CloudClient.Text.Normal.Table
import CloudClient.Text.Punycode
import CloudClient.Text.Quoted
import CloudClient.Text.Search
import CloudClient.Text.Sha256
import CloudClient.Text.Utf8
import CloudClient.Url
import CloudClient.Url.Domain
import CloudClient.Url.Domain.Direction
import CloudClient.Url.Domain.Joining
import CloudClient.Url.Domain.Letter
import CloudClient.Url.Domain.Ligature
import CloudClient.Url.Domain.Variant
import CloudClient.Url.Form
import CloudClient.Url.Host
import CloudClient.Url.Percent
import CloudClient.Xml.Escape
import CloudClient.Xml.Name
import CloudClient.Xml.Node
import CloudClient.Xml.Token
import CloudClient.XmlRpc.Message
import CloudClient.XmlRpc.Reader
import CloudClient.XmlRpc.Writer

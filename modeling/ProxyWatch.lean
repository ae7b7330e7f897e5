import ProxyWatch.Api.Client
import ProxyWatch.Api.Exchange
import ProxyWatch.Api.Model
import ProxyWatch.Api.RequestError
import ProxyWatch.Api.Server
import ProxyWatch.Api.Wire
import ProxyWatch.Cli.Command
import ProxyWatch.Cli.Endpoints
import ProxyWatch.Cli.Follow
import ProxyWatch.Cli.Grammar
import ProxyWatch.Cli.Health
import ProxyWatch.Cli.Help
import ProxyWatch.Cli.Rehearsal
import ProxyWatch.Cli.Report
import ProxyWatch.Cli.Run
import ProxyWatch.Cli.World
import ProxyWatch.Data.Dictionary
import ProxyWatch.Document.Message
import ProxyWatch.Document.Patch
import ProxyWatch.Document.Pointer
import ProxyWatch.Document.Reconciler
import ProxyWatch.Endpoint.Basic
import ProxyWatch.Endpoint.Registry
import ProxyWatch.Endpoint.Store
import ProxyWatch.Health.Check
import ProxyWatch.Health.Clock
import ProxyWatch.Health.Poller
import ProxyWatch.Health.Presentation
import ProxyWatch.Health.Probe
import ProxyWatch.Health.Timeline
import ProxyWatch.Health.Timing
import ProxyWatch.Json.Basic
import ProxyWatch.Json.Diagnosis
import ProxyWatch.Json.Literal
import ProxyWatch.Json.Printer
import ProxyWatch.Json.Record
import ProxyWatch.Json.Source
import ProxyWatch.Log.Buffer
import ProxyWatch.Log.Context
import ProxyWatch.Log.Entry
import ProxyWatch.Log.Level
import ProxyWatch.Number.Double
import ProxyWatch.Number.Floating
import ProxyWatch.Number.Rounding
import ProxyWatch.Number.Shortest
import ProxyWatch.Session
import ProxyWatch.Settings.Basic
import ProxyWatch.Settings.Load
import ProxyWatch.Settings.Value
import ProxyWatch.Snapshot
import ProxyWatch.Stream.Address
import ProxyWatch.Stream.ConnectionFeed
import ProxyWatch.Stream.Driver
import ProxyWatch.Stream.Frame
import ProxyWatch.Stream.Handshake
import ProxyWatch.Stream.Live
import ProxyWatch.Stream.LogFeed
import ProxyWatch.Stream.Reconnector
import ProxyWatch.Stream.Script
import ProxyWatch.Stream.State
import ProxyWatch.Text.Base64
import ProxyWatch.Text.Blank
import ProxyWatch.Text.CaseTable
import ProxyWatch.Text.Lowercase
import ProxyWatch.Text.Quantity
import ProxyWatch.Text.Utf16
import ProxyWatch.Text.Utf8
import ProxyWatch.Toml.Basic
import ProxyWatch.Toml.Reader
import ProxyWatch.Toml.Timestamp
import ProxyWatch.Traffic.Rates
import ProxyWatch.Traffic.Sample
import ProxyWatch.Url.Basic
import ProxyWatch.Url.Edit
import ProxyWatch.Url.Host
import ProxyWatch.Url.Percent
import ProxyWatch.Url.Punycode
import ProxyWatch.Url.Reader
import ProxyWatch.Main
import ProxyWatch.Proofs.Stream.CallbackTrace
import ProxyWatch.Proofs.Data.Gathered
import ProxyWatch.Proofs.Stream.ViewHistory
import ProxyWatch.Proofs.Stream.Closing
import ProxyWatch.Proofs.Data.Attempt
import ProxyWatch.Proofs.Data.Ordered
import ProxyWatch.Proofs.Health.BoardHistory
import ProxyWatch.Proofs.Health.TimelineHistory
import ProxyWatch.Proofs.Json.Ordered
import ProxyWatch.Proofs.Document.Ordered
import ProxyWatch.Proofs.Stream.Samples
import ProxyWatch.Proofs.Stream.Reopening
import ProxyWatch.Proofs.Health.Validation
import ProxyWatch.Proofs.Log.Retention
import ProxyWatch.Proofs.Health.PresentationHistory
import ProxyWatch.Proofs.Endpoint.Focus
import ProxyWatch.Proofs.Stream.Correspondence
import ProxyWatch.Proofs.Stream.LastConnect
import ProxyWatch.Proofs.Stream.Watching
import ProxyWatch.Proofs.Stream.LastNotice
import ProxyWatch.Proofs.Health.SafeChecks
import ProxyWatch.Proofs.Health.Joining
import ProxyWatch.Proofs.Stream.Intake
import ProxyWatch.Proofs.Cli.LogLoop
import ProxyWatch.Proofs.Health.Superseded
import ProxyWatch.Proofs.Document.Composition
import ProxyWatch.Proofs.Json.Tokens
import ProxyWatch.Proofs.Json.Layout
import ProxyWatch.Proofs.Json.Roundtrip
import ProxyWatch.Proofs.Document.Resending
import ProxyWatch.Proofs.Endpoint.Saved
import ProxyWatch.Proofs.Cli.EndpointCommands
import ProxyWatch.Proofs.Endpoint.Loading
import ProxyWatch.Proofs.Stream.Schedule
import ProxyWatch.Proofs.Text.Utf8
import ProxyWatch.Proofs.Text.Lowercase
import ProxyWatch.Proofs.Url.Percent
import ProxyWatch.Proofs.Url.Segments
import ProxyWatch.Proofs.Url.Punycode
import ProxyWatch.Proofs.Url.Splitting
import ProxyWatch.Proofs.Url.Addresses
import ProxyWatch.Proofs.Url.Hosts
import ProxyWatch.Proofs.Url.Authority
import ProxyWatch.Proofs.Url.Paths
import ProxyWatch.Proofs.Url.Roundtrip
import ProxyWatch.Proofs.Url.Continuation
import ProxyWatch.Proofs.Url.Domains
import ProxyWatch.Proofs.Api.Resources
import ProxyWatch.Proofs.Api.ConfigurationUrl
import ProxyWatch.Proofs.Stream.Addresses
import ProxyWatch.Proofs.Session.Opening
import ProxyWatch.Proofs.Document.Isolation
import ProxyWatch.Proofs.Stream.Isolation
import ProxyWatch.Proofs.Health.Racing
import ProxyWatch.Proofs.Endpoint.FreshIds
import ProxyWatch.Proofs.Text.Parts
import ProxyWatch.Proofs.Log.Search
import ProxyWatch.Proofs.Health.Polling
import ProxyWatch.Proofs.Health.PolledTimeline
import ProxyWatch.Proofs.Number.Shortest
import ProxyWatch.Proofs.Json.Numerals
import ProxyWatch.Proofs.Json.Records
import ProxyWatch.Proofs.Traffic.Telescoping
import ProxyWatch.Proofs.Cli.PrintedTotals
import ProxyWatch.Proofs.Log.Rereading
import ProxyWatch.Proofs.Log.EncodedContext
import ProxyWatch.Proofs.Traffic.Saturation
import ProxyWatch.Proofs.Json.Extent
import ProxyWatch.Proofs.Api.Refusal
import ProxyWatch.Proofs.Number.Rounding
import ProxyWatch.Proofs.Text.Quantity

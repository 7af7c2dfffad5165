import CatalogDelta.Act
import CatalogDelta.Catalog.Basic
import CatalogDelta.Catalog.Client
import CatalogDelta.Catalog.History
import CatalogDelta.Catalog.Snapshot
import CatalogDelta.Catalog.Trouble
import CatalogDelta.Clock.Calendar
import CatalogDelta.Clock.Iso
import CatalogDelta.Clock.Moment
import CatalogDelta.Clock.Span
import CatalogDelta.Command.Arguments
import CatalogDelta.Command.Output
import CatalogDelta.Command.Run
import CatalogDelta.Command.Switch
import CatalogDelta.Data.Basic
import CatalogDelta.Data.Display
import CatalogDelta.Data.Integer
import CatalogDelta.Data.Shape
import CatalogDelta.Dataset
import CatalogDelta.Decimal.Binary
import CatalogDelta.Decimal.Layout
import CatalogDelta.Decimal.Numeral
import CatalogDelta.Fault
import CatalogDelta.Files.Access
import CatalogDelta.Files.Basic
import CatalogDelta.Files.Document
import CatalogDelta.Files.Encoding
import CatalogDelta.Handle
import CatalogDelta.Journal.Dataset
import CatalogDelta.Journal.Entry
import CatalogDelta.Journal.Layout
import CatalogDelta.Journal.Sink
import CatalogDelta.Journal.Template
import CatalogDelta.Json.Reader
import CatalogDelta.Json.Value
import CatalogDelta.Json.Writer
import CatalogDelta.Lookback.Duration
import CatalogDelta.Lookback.Policy
import CatalogDelta.Main
import CatalogDelta.OrderedMap
import CatalogDelta.Partition.Name
import CatalogDelta.Pattern.Glob
import CatalogDelta.Pattern.Name
import CatalogDelta.Pattern.Regex.Bracket
import CatalogDelta.Pattern.Regex.Escape
import CatalogDelta.Pattern.Regex.Flags
import CatalogDelta.Pattern.Regex.Grammar
import CatalogDelta.Pattern.Regex.Match
import CatalogDelta.Pattern.Regex.Node
import CatalogDelta.Pattern.Regex.Reader
import CatalogDelta.Pattern.Regex.Repeat
import CatalogDelta.Pattern.Regex.Source
import CatalogDelta.Pool.Basic
import CatalogDelta.Pool.Lease
import CatalogDelta.Pool.Session
import CatalogDelta.Pool.Traffic
import CatalogDelta.Proofs.Act.Closed
import CatalogDelta.Proofs.Act.Converses
import CatalogDelta.Proofs.Act.Gives
import CatalogDelta.Proofs.Act.Watched
import CatalogDelta.Proofs.Act.Within
import CatalogDelta.Proofs.Act.Yields
import CatalogDelta.Proofs.Catalog.History
import CatalogDelta.Proofs.Catalog.InStep
import CatalogDelta.Proofs.Catalog.Loaded
import CatalogDelta.Proofs.Catalog.Malformed
import CatalogDelta.Proofs.Catalog.Shape
import CatalogDelta.Proofs.Catalog.Source
import CatalogDelta.Proofs.Clock.Span
import CatalogDelta.Proofs.Command.Commit
import CatalogDelta.Proofs.Command.Intact
import CatalogDelta.Proofs.Dataset
import CatalogDelta.Proofs.Decimal.Exact
import CatalogDelta.Proofs.Decimal.Finite
import CatalogDelta.Proofs.Decimal.Integer
import CatalogDelta.Proofs.Decimal.Mantissa
import CatalogDelta.Proofs.Decimal.Order
import CatalogDelta.Proofs.Decimal.Short
import CatalogDelta.Proofs.Decimal.Stored
import CatalogDelta.Proofs.Decimal.Unsigned
import CatalogDelta.Proofs.Files.Replace
import CatalogDelta.Proofs.Files.Spared
import CatalogDelta.Proofs.Json.Bounded
import CatalogDelta.Proofs.Json.Numeral
import CatalogDelta.Proofs.Json.TextLiteral
import CatalogDelta.Proofs.Json.Value
import CatalogDelta.Proofs.Lookback.Duration
import CatalogDelta.Proofs.Lookback.Escape
import CatalogDelta.Proofs.Lookback.Letter
import CatalogDelta.Proofs.Lookback.Spelling
import CatalogDelta.Proofs.Lookback.Tokens
import CatalogDelta.Proofs.Lookback.Total
import CatalogDelta.Proofs.Lookback.Window
import CatalogDelta.Proofs.OrderedMap
import CatalogDelta.Proofs.Partition.Name
import CatalogDelta.Proofs.Pattern.Bracket
import CatalogDelta.Proofs.Pattern.Fits
import CatalogDelta.Proofs.Pattern.Matching
import CatalogDelta.Proofs.Pattern.Meaning
import CatalogDelta.Proofs.Pool.Books
import CatalogDelta.Proofs.Pool.Close
import CatalogDelta.Proofs.Pool.Duties
import CatalogDelta.Proofs.Pool.Lease
import CatalogDelta.Proofs.Pool.Record
import CatalogDelta.Proofs.Pool.Recorded
import CatalogDelta.Proofs.Pool.Register
import CatalogDelta.Proofs.Pool.Session
import CatalogDelta.Proofs.Pool.Shared
import CatalogDelta.Proofs.Pool.Traffic
import CatalogDelta.Proofs.Pool.Undisturbed
import CatalogDelta.Proofs.Pool.Watched
import CatalogDelta.Proofs.Retry
import CatalogDelta.Proofs.Retry.Attempts
import CatalogDelta.Proofs.Scan.Admission
import CatalogDelta.Proofs.Scan.Advance
import CatalogDelta.Proofs.Scan.Backed
import CatalogDelta.Proofs.Scan.Calls
import CatalogDelta.Proofs.Scan.Choice
import CatalogDelta.Proofs.Scan.Commit
import CatalogDelta.Proofs.Scan.Conversation
import CatalogDelta.Proofs.Scan.Deeds
import CatalogDelta.Proofs.Scan.Escape
import CatalogDelta.Proofs.Scan.Exchange
import CatalogDelta.Proofs.Scan.Independence
import CatalogDelta.Proofs.Scan.Interleaving
import CatalogDelta.Proofs.Scan.Listed
import CatalogDelta.Proofs.Scan.Loss
import CatalogDelta.Proofs.Scan.Narrowing
import CatalogDelta.Proofs.Scan.Newest
import CatalogDelta.Proofs.Scan.Outage
import CatalogDelta.Proofs.Scan.Overrun
import CatalogDelta.Proofs.Scan.Parallel
import CatalogDelta.Proofs.Scan.Rescan
import CatalogDelta.Proofs.Scan.Run
import CatalogDelta.Proofs.Scan.Selection
import CatalogDelta.Proofs.Scan.Share
import CatalogDelta.Proofs.Scan.Sight
import CatalogDelta.Proofs.Scan.Specification
import CatalogDelta.Proofs.Scan.Survey
import CatalogDelta.Proofs.Scan.Unseen
import CatalogDelta.Proofs.Scan.View
import CatalogDelta.Proofs.Scan.Watermark
import CatalogDelta.Proofs.Selector
import CatalogDelta.Proofs.Settings.Expansion
import CatalogDelta.Proofs.Settings.Lookback
import CatalogDelta.Proofs.Settings.References
import CatalogDelta.Proofs.Settings.Usual
import CatalogDelta.Proofs.Settings.Validated
import CatalogDelta.Proofs.Site.Factory
import CatalogDelta.Proofs.Site.Kept
import CatalogDelta.Proofs.Site.Retries
import CatalogDelta.Proofs.Site.Services
import CatalogDelta.Proofs.Site.Snapshot
import CatalogDelta.Proofs.Text.Pieces
import CatalogDelta.Proofs.Text.PlainLetter
import CatalogDelta.Proofs.UpdateTime.Asking
import CatalogDelta.Proofs.UpdateTime.Directory
import CatalogDelta.Proofs.UpdateTime.Fallback
import CatalogDelta.Proofs.UpdateTime.Memory
import CatalogDelta.Proofs.UpdateTime.Replies
import CatalogDelta.Proofs.UpdateTime.Stamp
import CatalogDelta.Proofs.UpdateTime.Steps
import CatalogDelta.Proofs.UpdateTime.Trouble
import CatalogDelta.Proofs.Watermark.Basic
import CatalogDelta.Proofs.Watermark.Join
import CatalogDelta.Proofs.Watermark.Load
import CatalogDelta.Proofs.Watermark.Loaded
import CatalogDelta.Proofs.Watermark.Store
import CatalogDelta.Proofs.Work
import CatalogDelta.Retry
import CatalogDelta.Scan.Admission
import CatalogDelta.Scan.Crew
import CatalogDelta.Scan.Result
import CatalogDelta.Scan.Run
import CatalogDelta.Scan.Table
import CatalogDelta.Selector
import CatalogDelta.Settings.Basic
import CatalogDelta.Settings.Environment
import CatalogDelta.Settings.EnvironmentFile
import CatalogDelta.Settings.Form
import CatalogDelta.Settings.Load
import CatalogDelta.Settings.Number
import CatalogDelta.Settings.Value
import CatalogDelta.Site.Basic
import CatalogDelta.Site.Services
import CatalogDelta.Text.Classes
import CatalogDelta.Text.LetterCase
import CatalogDelta.Text.Pieces
import CatalogDelta.Text.Points
import CatalogDelta.Text.Quoted
import CatalogDelta.Text.Word
import CatalogDelta.UpdateTime.Source
import CatalogDelta.UpdateTime.Storage
import CatalogDelta.Watermark.Basic
import CatalogDelta.Watermark.Ledger
import CatalogDelta.Watermark.Store
import CatalogDelta.Work

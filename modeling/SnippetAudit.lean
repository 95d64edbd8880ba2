import SnippetAudit.Archive.Crc32
import SnippetAudit.Archive.Gzip
import SnippetAudit.Archive.Inflate
import SnippetAudit.Artifact.Basic
import SnippetAudit.Artifact.Store
import SnippetAudit.Backend.Basic
import SnippetAudit.Backend.Script
import SnippetAudit.Batch.Basic
import SnippetAudit.Batch.Report
import SnippetAudit.Command.Basic
import SnippetAudit.Command.Console
import SnippetAudit.Command.Invocation
import SnippetAudit.Command.Options
import SnippetAudit.Command.Train
import SnippetAudit.Dataset
import SnippetAudit.Detector
import SnippetAudit.Digest.Sha256
import SnippetAudit.Evaluation
import SnippetAudit.Failure
import SnippetAudit.Files.Basic
import SnippetAudit.Files.Error
import SnippetAudit.Files.Glob
import SnippetAudit.Files.Path
import SnippetAudit.Files.Walk
import SnippetAudit.Finding
import SnippetAudit.Grade
import SnippetAudit.Host.Address
import SnippetAudit.Host.Name.Basic
import SnippetAudit.Host.Name.Label
import SnippetAudit.Host.Name.Property
import SnippetAudit.Host.Name.Table
import SnippetAudit.Host.Punycode
import SnippetAudit.Json.Basic
import SnippetAudit.Json.Decoder
import SnippetAudit.Json.Numeral
import SnippetAudit.Json.Printer
import SnippetAudit.Json.Reader
import SnippetAudit.Main
import SnippetAudit.Number.Binary
import SnippetAudit.Number.Fixed
import SnippetAudit.Number.Reader
import SnippetAudit.Number.Shortest
import SnippetAudit.Optimizer.Bootstrap
import SnippetAudit.Optimizer.Reflective
import SnippetAudit.Prompt.Program
import SnippetAudit.Proofs.Archive.Gzip
import SnippetAudit.Proofs.Artifact.Atomic
import SnippetAudit.Proofs.Artifact.RoundTrip
import SnippetAudit.Proofs.Artifact.Store
import SnippetAudit.Proofs.Backend.Logged
import SnippetAudit.Proofs.Backend.Steady
import SnippetAudit.Proofs.Batch.Sequence
import SnippetAudit.Proofs.Command.Client
import SnippetAudit.Proofs.Command.Console
import SnippetAudit.Proofs.Command.Train
import SnippetAudit.Proofs.Evaluation
import SnippetAudit.Proofs.Files.Grown
import SnippetAudit.Proofs.Files.Path
import SnippetAudit.Proofs.Files.Rename
import SnippetAudit.Proofs.Files.Walk
import SnippetAudit.Proofs.Finding
import SnippetAudit.Proofs.Grade
import SnippetAudit.Proofs.Json.Compact
import SnippetAudit.Proofs.Json.Grammar
import SnippetAudit.Proofs.Json.Layout
import SnippetAudit.Proofs.Json.Numeral
import SnippetAudit.Proofs.Json.Printed
import SnippetAudit.Proofs.Json.Range
import SnippetAudit.Proofs.Json.Reader
import SnippetAudit.Proofs.Json.Record
import SnippetAudit.Proofs.Json.Reread
import SnippetAudit.Proofs.Number.Digits
import SnippetAudit.Proofs.Number.Double
import SnippetAudit.Proofs.Number.Rounding
import SnippetAudit.Proofs.Optimizer.Bootstrap
import SnippetAudit.Proofs.Optimizer.Demos
import SnippetAudit.Proofs.Optimizer.Reflective
import SnippetAudit.Proofs.Reply.Fence
import SnippetAudit.Proofs.Reply.Forms
import SnippetAudit.Proofs.Reply.Pair
import SnippetAudit.Proofs.Reply.Plain
import SnippetAudit.Proofs.Reply.Section
import SnippetAudit.Proofs.Reply.Transport
import SnippetAudit.Proofs.Run.Accounts
import SnippetAudit.Proofs.Run.Row
import SnippetAudit.Proofs.Run.Task
import SnippetAudit.Proofs.Service.Agreement
import SnippetAudit.Proofs.Service.Confine
import SnippetAudit.Proofs.Text.Blank
import SnippetAudit.Proofs.Text.Lines
import SnippetAudit.Proofs.Time.Text
import SnippetAudit.Provider.Address
import SnippetAudit.Provider.Client
import SnippetAudit.Provider.Script
import SnippetAudit.Provider.Settings
import SnippetAudit.Reply.Basic
import SnippetAudit.Reply.Fence
import SnippetAudit.Reply.Section
import SnippetAudit.Report.Single
import SnippetAudit.Run.Basic
import SnippetAudit.Run.Event
import SnippetAudit.Sample
import SnippetAudit.Service.Basic
import SnippetAudit.Service.Exchange
import SnippetAudit.Service.Settings
import SnippetAudit.Taxonomy
import SnippetAudit.Text.Blank
import SnippetAudit.Text.Hex
import SnippetAudit.Text.Hidden
import SnippetAudit.Text.Lines
import SnippetAudit.Text.Normal.Basic
import SnippetAudit.Text.Normal.Table
import SnippetAudit.Text.Quoted
import SnippetAudit.Text.Runs
import SnippetAudit.Text.Search
import SnippetAudit.Text.Utf8
import SnippetAudit.Time.Clock
import SnippetAudit.Time.Instant
import SnippetAudit.Time.Text
import SnippetAudit.Trouble
import SnippetAudit.Verdict
import SnippetAudit.Proofs.Optimizer.Rounds
import SnippetAudit.Proofs.Optimizer.Cap
import SnippetAudit.Proofs.Grade.Notes
import SnippetAudit.Proofs.Optimizer.Mislabeled
import SnippetAudit.Proofs.Optimizer.Extended
import SnippetAudit.Proofs.Reply.Unfenced
import SnippetAudit.Proofs.Finding.Wire
import SnippetAudit.Proofs.Reply.Body
import SnippetAudit.Proofs.Files.Tree
import SnippetAudit.Proofs.Files.Order
import SnippetAudit.Proofs.Files.Descent
import SnippetAudit.Proofs.Batch.Collect
import SnippetAudit.Proofs.Json.Field
import SnippetAudit.Proofs.Provider.Answer
import SnippetAudit.Proofs.Batch.Totals
import SnippetAudit.Proofs.Text.Search
import SnippetAudit.Proofs.Prompt.Shown
import SnippetAudit.Proofs.Prompt.Snippet
import SnippetAudit.Proofs.Artifact.Fallback
import SnippetAudit.Proofs.Json.Members
import SnippetAudit.Proofs.Dataset.Entry
import SnippetAudit.Proofs.Dataset.Samples
import SnippetAudit.Proofs.Backend.Script
import SnippetAudit.Proofs.Optimizer.Proposal

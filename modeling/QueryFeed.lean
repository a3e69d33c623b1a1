import QueryFeed.CommandLine.Basic
import QueryFeed.Database.RowStream
import QueryFeed.Database.Scripted
import QueryFeed.Main
import QueryFeed.Postgres.Network
import QueryFeed.Row.Entity
import QueryFeed.Run.Page
import QueryFeed.Run.Schedule
import QueryFeed.Value.Tagged
import QueryFeed.Proofs.Poller.Accounts
import QueryFeed.Proofs.Poller.Acts
import QueryFeed.Proofs.Poller.Balance
import QueryFeed.Proofs.Poller.Stopping
import QueryFeed.Proofs.Poller.Wiring
import QueryFeed.Proofs.Run.Trace
import QueryFeed.Proofs.Run.Writing
import QueryFeed.Proofs.Run.Ledger
import QueryFeed.Proofs.Run.Outcome
import QueryFeed.Proofs.Json.Grammar
import QueryFeed.Proofs.Json.Compact
import QueryFeed.Proofs.Run.Output
import QueryFeed.Proofs.Run.Schedule
import QueryFeed.Proofs.Poller.Grouping
import QueryFeed.Proofs.Poller.Tally
import QueryFeed.Proofs.Run.Ending
import QueryFeed.Proofs.Query.FixedText
import QueryFeed.Proofs.Poller.Calls
import QueryFeed.Proofs.Source.Desk
import QueryFeed.Proofs.Source.Handles
import QueryFeed.Proofs.Source.Lifecycle
import QueryFeed.Proofs.Poller.Notices
import QueryFeed.Proofs.Poller.Pace
import QueryFeed.Proofs.Poller.Records
import QueryFeed.Proofs.Poller.Destinations
import QueryFeed.Proofs.Configuration.Usable
import QueryFeed.Proofs.Database.Masking
import QueryFeed.Proofs.Database.Reading
import QueryFeed.Proofs.Query.Substitution
import QueryFeed.Proofs.Poller.Collected
import QueryFeed.Proofs.Poller.Counters
import QueryFeed.Proofs.Query.Refusal
import QueryFeed.Proofs.Configuration.Expansion
import QueryFeed.Proofs.Row.Views
import QueryFeed.Proofs.Row.Entities
import QueryFeed.Proofs.Postgres.Nulls
import QueryFeed.Proofs.Postgres.Binding
import QueryFeed.Proofs.Text.Base64
import QueryFeed.Proofs.Text.Padded
import QueryFeed.Proofs.Calendar.Texts
import QueryFeed.Proofs.Json.Unambiguous
import QueryFeed.Proofs.Number.DecimalText
import QueryFeed.Proofs.Value.Lossless

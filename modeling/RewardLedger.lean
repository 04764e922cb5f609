import RewardLedger.Amount
import RewardLedger.Api.Connection
import RewardLedger.Api.Exchange
import RewardLedger.Api.Failure
import RewardLedger.Api.Handler
import RewardLedger.Api.Health
import RewardLedger.Api.MediaType
import RewardLedger.Api.Message
import RewardLedger.Api.Route
import RewardLedger.Api.Router
import RewardLedger.Api.Upgrade
import RewardLedger.Client
import RewardLedger.CommandLine
import RewardLedger.Config.Basic
import RewardLedger.Config.File
import RewardLedger.Crediting
import RewardLedger.Double
import RewardLedger.Double.Shortest
import RewardLedger.Draw
import RewardLedger.Effect
import RewardLedger.Error
import RewardLedger.Feed
import RewardLedger.Hub
import RewardLedger.Income
import RewardLedger.IncomeSource
import RewardLedger.Jobs
import RewardLedger.Json.Document
import RewardLedger.Json.Numeral
import RewardLedger.Json.Reader
import RewardLedger.Json.Value
import RewardLedger.Log.Basic
import RewardLedger.Log.Directive
import RewardLedger.Log.Filter
import RewardLedger.Main
import RewardLedger.Program
import RewardLedger.RateCache
import RewardLedger.RateCache.Refresh
import RewardLedger.Reward
import RewardLedger.Scenario.Line
import RewardLedger.Scenario.Passing
import RewardLedger.Scenario.Step
import RewardLedger.Scenario.World
import RewardLedger.Service
import RewardLedger.Settlement
import RewardLedger.Share
import RewardLedger.SocketAddress
import RewardLedger.Store.Backend
import RewardLedger.Store.Memory
import RewardLedger.Store.Opening
import RewardLedger.Store.Operation
import RewardLedger.Store.Relational
import RewardLedger.Store.Schema
import RewardLedger.Store.Script
import RewardLedger.Store.Statement
import RewardLedger.Store.Table
import RewardLedger.Store.Tables
import RewardLedger.Store.WriteUnit
import RewardLedger.Text.Alphanumeric
import RewardLedger.Text.Blank
import RewardLedger.Text.Cut
import RewardLedger.Text.Decimal
import RewardLedger.Text.Hidden
import RewardLedger.Text.Percent
import RewardLedger.Text.Quoted
import RewardLedger.Text.Utf8
import RewardLedger.Time.Day
import RewardLedger.Time.Instant
import RewardLedger.Time.Timestamp
import RewardLedger.User
import RewardLedger.Wire.Api
import RewardLedger.Wire.Ledger
import RewardLedger.Withdrawal
import RewardLedger.Proofs.Store.Rollback
import RewardLedger.Proofs.Store.Contract
import RewardLedger.Proofs.Store.Unit
import RewardLedger.Proofs.Store.Run
import RewardLedger.Proofs.Batching
import RewardLedger.Proofs.Books
import RewardLedger.Proofs.Records
import RewardLedger.Proofs.Refusal
import RewardLedger.Proofs.Delivery
import RewardLedger.Proofs.Pace
import RewardLedger.Proofs.Performing
import RewardLedger.Proofs.Solvency
import RewardLedger.Proofs.People
import RewardLedger.Proofs.Reordering
import RewardLedger.Proofs.Settling
import RewardLedger.Proofs.Sweeping
import RewardLedger.Proofs.Relational.Exchange
import RewardLedger.Proofs.Relational.Unit
import RewardLedger.Proofs.Relational.Credit
import RewardLedger.Proofs.Commitment
import RewardLedger.Proofs.Redelivery
import RewardLedger.Proofs.Database.Basic
import RewardLedger.Proofs.Database.Holds
import RewardLedger.Proofs.Database.Statement
import RewardLedger.Proofs.Database.Run
import RewardLedger.Proofs.Database.Answer
import RewardLedger.Proofs.Database.Unit
import RewardLedger.Proofs.Agreement
import RewardLedger.Proofs.Disbursing
import RewardLedger.Proofs.Hub.Exact
import RewardLedger.Proofs.Publishing
import RewardLedger.Proofs.Pooling
import RewardLedger.Proofs.Reloading
import RewardLedger.Proofs.Capacity
import RewardLedger.Proofs.Requests.Status
import RewardLedger.Proofs.Requests.Endurance
import RewardLedger.Proofs.Requests.Ending
import RewardLedger.Proofs.Requests.Handling
import RewardLedger.Proofs.Requests.Asking
import RewardLedger.Proofs.Referral
import RewardLedger.Proofs.Locking.Order
import RewardLedger.Proofs.Locking.Waiting
import RewardLedger.Proofs.Draw.Exact
import RewardLedger.Proofs.Draw.Fair
import RewardLedger.Proofs.Giving
import RewardLedger.Proofs.Feed.Online
import RewardLedger.Proofs.Feed.Gap
import RewardLedger.Proofs.Paging
import RewardLedger.Proofs.Sharing
import RewardLedger.Proofs.Measuring
import RewardLedger.Proofs.Wire.Lossless
import RewardLedger.Proofs.Undoing
import RewardLedger.Proofs.Overlay

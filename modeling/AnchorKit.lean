import AnchorKit.Base.Program
import AnchorKit.Base.Coupling
import AnchorKit.Base.Machine
import AnchorKit.Base.MachineInt
import AnchorKit.Base.LiveMap
import AnchorKit.Base.NumberedLog
import AnchorKit.Base.Register
import AnchorKit.Base.Renaming
import AnchorKit.Base.Paging
import AnchorKit.Base.SlidingWindow
import AnchorKit.Base.Changes
import AnchorKit.Base.Ascii
import AnchorKit.Base.Hex
import AnchorKit.Base.Percent
import AnchorKit.Base.JsonTree
import AnchorKit.Base.Words
import AnchorKit.Base.Pattern
import AnchorKit.Base.Distinct
import AnchorKit.Base.Lexical
import AnchorKit.Base.Rfc3339
import AnchorKit.Contract.Types
import AnchorKit.Contract.Storage
import AnchorKit.Contract.Multisig
import AnchorKit.Contract.DomainValidator
import AnchorKit.Contract.Entry
import AnchorKit.Contract.System
import AnchorKit.Contract.Outcome
import AnchorKit.Contract.Records
import AnchorKit.Contract.History
import AnchorKit.Contract.Count
import AnchorKit.Contract.Validity
import AnchorKit.Contract.Rent
import AnchorKit.Contract.CounterRent
import AnchorKit.Contract.Governance
import AnchorKit.Contract.Authority
import AnchorKit.Contract.Batch
import AnchorKit.Contract.LateRefusal
import AnchorKit.Contract.Caps
import AnchorKit.Contract.Commute
import AnchorKit.Contract.Pagination
import AnchorKit.Contract.LiveReading
import AnchorKit.Contract.EventLog
import AnchorKit.Contract.Prediction
import AnchorKit.Contract.Recovery
import AnchorKit.Contract.Renewal
import AnchorKit.Webhook.CircuitBreaker
import AnchorKit.Webhook.BreakerRuns
import AnchorKit.Webhook.BreakerSequential
import AnchorKit.Webhook.Delivery
import AnchorKit.Webhook.Retries
import AnchorKit.Webhook.Processor
import AnchorKit.Webhook.Replays
import AnchorKit.Webhook.Schedules
import AnchorKit.Webhook.Tables
import AnchorKit.Webhook.Service
import AnchorKit.Webhook.Hosts
import AnchorKit.Webhook.Redelivery
import AnchorKit.Webhook.DeadLetters
import AnchorKit.Webhook.Logging
import AnchorKit.Webhook.Verification
import AnchorKit.Sdk.Values
import AnchorKit.Sdk.RateLimiter
import AnchorKit.Sdk.RateLimiterBounds
import AnchorKit.Sdk.RateLimiterInvisible
import AnchorKit.Sdk.RateLimiterHints
import AnchorKit.Sdk.RateLimiterLog
import AnchorKit.Sdk.RateLimiterMemory
import AnchorKit.Sdk.ConfigManager
import AnchorKit.Sdk.ConfigNotifications
import AnchorKit.Sdk.StreamingService
import AnchorKit.Sdk.StreamingSteps
import AnchorKit.Sdk.Tracking
import AnchorKit.Sdk.PollLoop
import AnchorKit.Sdk.StatusEvents
import AnchorKit.Sdk.Backoff
import AnchorKit.Sdk.StreamShutdown
import AnchorKit.Sdk.StreamLiveness
import AnchorKit.Sdk.StreamClose
import AnchorKit.Sdk.StreamResume
import AnchorKit.Sdk.StreamGivesUp
import AnchorKit.Sdk.StreamDowngrade
import AnchorKit.Sdk.StreamNotices
import AnchorKit.Sdk.ConfigValidation
import AnchorKit.Sdk.Sep10Service
import AnchorKit.Sdk.Sep10Flow
import AnchorKit.Cli.Error
import AnchorKit.Cli.TransactionUrl
import AnchorKit.Cli.Watch
import AnchorKit.Cli.Discovery
import AnchorKit.Cli.Playground
import AnchorKit.DevPanel.SecretRedaction
import AnchorKit.DevPanel.SeedRedaction
import AnchorKit.DevPanel.RequestPanel

import BoardActivity.ActionSet
import BoardActivity.Activity.Cards
import BoardActivity.Activity.Comments
import BoardActivity.Activity.Tracker
import BoardActivity.Binary64.Basic
import BoardActivity.Binary64.Decimal
import BoardActivity.Board
import BoardActivity.Card
import BoardActivity.Comment
import BoardActivity.Config
import BoardActivity.Database.Closed
import BoardActivity.Database.Outbox
import BoardActivity.Database.Rows
import BoardActivity.Delivery
import BoardActivity.Error
import BoardActivity.Event
import BoardActivity.Feed.Basic
import BoardActivity.Feed.Routes
import BoardActivity.Http.Form
import BoardActivity.Http.Method
import BoardActivity.Http.Target
import BoardActivity.Ident
import BoardActivity.Json.Basic
import BoardActivity.Json.Text
import BoardActivity.Names
import BoardActivity.Narrative.Description
import BoardActivity.Narrative.SystemComment
import BoardActivity.Net.SocketAddress
import BoardActivity.Notification
import BoardActivity.Power
import BoardActivity.Proofs.ClaimFencing
import BoardActivity.Proofs.OperationEffects
import BoardActivity.Proofs.OutboxHistory
import BoardActivity.Proofs.OutboxMoves
import BoardActivity.Proofs.QueueCalls
import BoardActivity.Proofs.RecordedEvents
import BoardActivity.Proofs.ReferenceRuns
import BoardActivity.Proofs.ReferentialIntegrity
import BoardActivity.Proofs.SystemRuns
import BoardActivity.Proofs.TableRows
import BoardActivity.Proofs.TaskLifecycle
import BoardActivity.Recipients
import BoardActivity.Retry
import BoardActivity.Simulation.Command
import BoardActivity.Simulation.World
import BoardActivity.Store.Basic
import BoardActivity.Store.Deliveries
import BoardActivity.Store.Notifications
import BoardActivity.Store.Outbox
import BoardActivity.Store.Table
import BoardActivity.Store.Transaction
import BoardActivity.Task
import BoardActivity.Text.Blank
import BoardActivity.Text.CombiningClass
import BoardActivity.Text.Composed
import BoardActivity.Text.Composites
import BoardActivity.Text.Mark
import BoardActivity.Text.NumberRows
import BoardActivity.Text.Percent
import BoardActivity.Text.Ranges
import BoardActivity.Text.Unsigned
import BoardActivity.Time.Calendar
import BoardActivity.Time.Instant
import BoardActivity.Time.Timestamp
import BoardActivity.Url.Basic
import BoardActivity.Url.Direction
import BoardActivity.Url.Domain
import BoardActivity.Url.Failure
import BoardActivity.Url.Host
import BoardActivity.Url.Joiner
import BoardActivity.Url.NameCharacter
import BoardActivity.Url.Punycode
import BoardActivity.Url.Replacement
import BoardActivity.User
import BoardActivity.Webhook
import BoardActivity.Wire.Basic
import BoardActivity.Wire.Commands
import BoardActivity.Wire.Deliveries
import BoardActivity.Wire.Records
import BoardActivity.Wire.Reports
import BoardActivity.Wire.Rows
import BoardActivity.Wire.Settings
import BoardActivity.Worker.Execution
import BoardActivity.Worker.Handlers
import BoardActivity.Worker.Poller
import BoardActivity.Worker.Pool
import BoardActivity.Worker.Settings
import BoardActivity.Worker.Transport
import BoardActivity.Proofs.CardChanges
import BoardActivity.Proofs.Membership
import BoardActivity.Proofs.CardHistory
import BoardActivity.Proofs.NotificationFanout
import BoardActivity.Proofs.TenantIsolation
import BoardActivity.Proofs.CardRemoval
import BoardActivity.Proofs.FanoutErrands
import BoardActivity.Proofs.RemovalDuringFanout
import BoardActivity.Proofs.OverlappingDeliveries
import BoardActivity.Proofs.DeliveryOrigins
import BoardActivity.Proofs.CallFrames
import BoardActivity.Proofs.SequentialDeliveries
import BoardActivity.Proofs.FailureStreaks
import BoardActivity.Proofs.DraftVisibility
import BoardActivity.Proofs.StagedWrites
import BoardActivity.Proofs.CardForm
import BoardActivity.Proofs.FeedDescriptions
import BoardActivity.Proofs.FeedRequests
import BoardActivity.Proofs.FanoutOrder
import BoardActivity.Proofs.SharedQueue
import BoardActivity.Proofs.DispatchedTasks
import BoardActivity.Proofs.ClaimedExecutions
import BoardActivity.Proofs.DrainTermination
import BoardActivity.Proofs.DeliveryEffects
import BoardActivity.Proofs.DispatchEffects
import BoardActivity.Proofs.RecipientRules
import BoardActivity.Proofs.CalendarDates
import BoardActivity.Proofs.WireForms
import BoardActivity.Proofs.InstantOrder
import BoardActivity.Proofs.TaskExecution
import BoardActivity.Proofs.WaitingTimes
import BoardActivity.Proofs.DelinquencyPolicies
import BoardActivity.Proofs.ClaimOrder
import BoardActivity.Proofs.Listings
import BoardActivity.Proofs.Narratives
import BoardActivity.Proofs.ByteOrder
import BoardActivity.Proofs.Subscriptions
import BoardActivity.Proofs.PoolRuns
import BoardActivity.Proofs.MemberLists
import BoardActivity.Proofs.StoredClaims
import BoardActivity.Proofs.Rounding
import BoardActivity.Proofs.DoubleArithmetic
import BoardActivity.Proofs.DoubleSpans
import BoardActivity.Proofs.PollingIntervals
import BoardActivity.Proofs.RetryDelays

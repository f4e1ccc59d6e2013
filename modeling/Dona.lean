import Dona.Updater.OutboxAgreement
import Dona.Scheduler.Endings
import Dona.Scheduler.AtMostOnce
import Dona.Dispatcher.WriteAuthorization
import Dona.Updater.OutboxAgreement
import Dona.Updater.Outbox
import Dona.Library.Coroutine
import Dona.UpdateNotification.Request
import Dona.UpdateNotification.World
import Dona.UpdateNotification.Reporter
import Dona.UpdateNotification.Worker
import Dona.UpdateNotification.PostedOnce
import Dona.SlackAdapter.Endpoints
import Dona.SlackAdapter.Drain
import Dona.Dispatcher.EventFrames
import Dona.Dispatcher.Worker
import Dona.Dispatcher.SerialInjection
import Dona.Jobs.Operations
import Dona.Jobs.Handoffs
import Dona.Jobs.Tasks
import Dona.Jobs.JobRows
import Dona.Jobs.Effects
import Dona.Jobs.TaskEffects
import Dona.Jobs.Notifications
import Dona.Jobs.Supervisor
import Dona.Jobs.Attempts
import Dona.Jobs.Worlds
import Dona.Jobs.TaskRuns
import Dona.Jobs.HandoffEffects
import Dona.Jobs.HandoffRuns
import Dona.Scheduler.Standing
import Dona.Scheduler.ClaimFences
import Dona.Scheduler.Revisions
import Dona.Scheduler.Withdrawals
import Dona.Scheduler.Suppression
import Dona.Scheduler.Preflights
import Dona.Library.SharedQueue
import Dona.Scheduler.FairClaims
import Dona.Library.Receipts
import Dona.Jobs.ControlRuns
import Dona.LiveSession.Observation
import Dona.LiveSession.FailClosed
import Dona.JobProgress.Coordinator
import Dona.JobProgress.Ledger
import Dona.JobProgress.Deliveries
import Dona.Calculator.Timezone
import Dona.Calculator.Expansion
import Dona.Jobs.SteerRuns
import Dona.Library.Search
import Dona.ResultPublish.WireBoundary
import Dona.ResultPublish.WireChunks
import Dona.ResultPublish.WireRequests
import Dona.ResultPublish.WireFraming
import Dona.Library.Json
import Dona.Library.JsonText
import Dona.CanonicalJson
import Dona.PayloadIdentity
import Dona.Library.Positions
import Dona.Dispatcher.Delivery
import Dona.Dispatcher.Withdrawals
import Dona.Dispatcher.Acceptance
import Dona.Library.CoroutineRuns
import Dona.Updater.DiagnosticLogs
import Dona.Updater.RetentionSafety
import Dona.Updater.Retention
import Dona.Creation.WorkspaceJson
import Dona.Scheduler.EventRows
import Dona.Creation.Ledger
import Dona.Creation.CreatedOnce
import Dona.Creation.Idempotency
import Dona.Scheduler.Attempts
import Dona.Library.Doubles
import Dona.Library.JsonGrammar
import Dona.ResultPublish.ExactNumbers
import Dona.Library.Closure
import Dona.Library.TextLines
import Dona.Jobs.ProcessTree
import Dona.Library.RollingHash
import Dona.ResultPublish.CapabilityScan
import Dona.Library.JsonParser
import Dona.Library.JsonValue
import Dona.Scheduler.StrictJson
import Dona.Library.JsonRender
import Dona.Scheduler.CalendarTexts
import Dona.Scheduler.Codecs
import Dona.Scheduler.RoundTrip
import Dona.Scheduler.CanonicalForm
import Dona.Calculator.Preview
import Dona.Library.Refusals
import Dona.Scheduler.CatchUp
import Dona.Scheduler.Arguments
import Dona.Scheduler.BatchChoice
import Dona.ResultPublish.Tokens
import Dona.SlackAdapter.ReminderRuns
import Dona.Updater.ReleaseProtocol

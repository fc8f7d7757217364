import RpcGateway.Activity.Pool
import RpcGateway.Calls.HttpBackend
import RpcGateway.Gateway.LoneStage
import RpcGateway.Main
import RpcGateway.Shutdown.Broadcast
import RpcGateway.Shutdown.Resources
import RpcGateway.Proofs.Activity.History
import RpcGateway.Proofs.Activity.Progress
import RpcGateway.Proofs.Activity.InStep
import RpcGateway.Proofs.Activity.Company
import RpcGateway.Proofs.Activity.Timing
import RpcGateway.Proofs.Breaker.Traffic
import RpcGateway.Proofs.Breaker.Readings
import RpcGateway.Proofs.Breaker.Accounting
import RpcGateway.Proofs.Breaker.Tripping
import RpcGateway.Proofs.Breaker.OpenPeriod
import RpcGateway.Proofs.Breaker.LoadShedding
import RpcGateway.Proofs.Breaker.Recovery
import RpcGateway.Proofs.Breaker.Isolation
import RpcGateway.Proofs.Retry.Backoff
import RpcGateway.Proofs.Retry.Attempts
import RpcGateway.Proofs.Retry.Rounds
import RpcGateway.Proofs.Dispatch.Outcomes
import RpcGateway.Proofs.Dispatch.Untried
import RpcGateway.Proofs.Dispatch.RetryAfter
import RpcGateway.Proofs.Dispatch.Dispatches
import RpcGateway.Proofs.Dispatch.Disclosure
import RpcGateway.Proofs.Dispatch.Timely
import RpcGateway.Proofs.Access.Counters
import RpcGateway.Proofs.Access.Windows
import RpcGateway.Proofs.Access.Bursts
import RpcGateway.Proofs.Access.Serving
import RpcGateway.Proofs.Access.Agreement
import RpcGateway.Proofs.Access.Lives
import RpcGateway.Proofs.Access.Endless
import RpcGateway.Proofs.Access.Repairs
import RpcGateway.Proofs.Shutdown.Waiting
import RpcGateway.Proofs.Shutdown.Phases
import RpcGateway.Proofs.Shutdown.Durations
import RpcGateway.Proofs.Shutdown.Pending
import RpcGateway.Proofs.Shutdown.Repeated
import RpcGateway.Proofs.Config.Acceptance
import RpcGateway.Proofs.Routing.Tables
import RpcGateway.Proofs.Routing.Mountings
import RpcGateway.Proofs.Routing.Patterns
import RpcGateway.Proofs.Routing.Starting
import RpcGateway.Proofs.Routing.Destinations
import RpcGateway.Proofs.Json.Texts
import RpcGateway.Proofs.Http.Identifiers
import RpcGateway.Proofs.Http.ErrorBody
import RpcGateway.Proofs.Gateway.Behaviour
import RpcGateway.Proofs.Gateway.Stages
import RpcGateway.Proofs.Gateway.Identities
import RpcGateway.Proofs.Gateway.Marking
import RpcGateway.Proofs.Gateway.Comparison
import RpcGateway.Proofs.Gateway.Paths
import RpcGateway.Proofs.Gateway.Secrecy
import RpcGateway.Proofs.Gateway.Courses
import RpcGateway.Proofs.Gateway.Correlation
import RpcGateway.Proofs.Gateway.Tracing
import RpcGateway.Proofs.Gateway.Deadlines
import RpcGateway.Proofs.Gateway.Lookups
import RpcGateway.Proofs.Activity.Schedules
import RpcGateway.Proofs.Breaker.Publications
import RpcGateway.Proofs.Breaker.Observers
import RpcGateway.Proofs.Gateway.Capacity
import RpcGateway.Proofs.Gateway.Metering
import RpcGateway.Proofs.Retry.Extensions
import RpcGateway.Proofs.Text.Cutting
import RpcGateway.Proofs.Http.FieldTexts
import RpcGateway.Proofs.Http.SessionCookies
import RpcGateway.Proofs.Measurement.Vocabulary
import RpcGateway.Proofs.Access.Outages
import RpcGateway.Proofs.Access.Sweeps
import RpcGateway.Proofs.Measurement.Segments
import RpcGateway.Proofs.Config.Reports
import RpcGateway.Proofs.Routing.Exactness
import RpcGateway.Proofs.Access.BearerTokens
import RpcGateway.Proofs.Http.CookiePairs
import RpcGateway.Proofs.Rpc.WrittenErrors
import RpcGateway.Proofs.Config.RoundTrip
import RpcGateway.Proofs.Retry.Waits

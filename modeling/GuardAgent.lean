import GuardAgent.Foundation.Machine
import GuardAgent.Foundation.Object
import GuardAgent.Foundation.Stamped
import GuardAgent.Foundation.Simulation
import GuardAgent.Foundation.Custody
import GuardAgent.Foundation.Program
import GuardAgent.Foundation.Halving
import GuardAgent.Foundation.Retry
import GuardAgent.Foundation.Weight
import GuardAgent.Foundation.Lapsing
import GuardAgent.Foundation.Calendar
import GuardAgent.Foundation.Glob
import GuardAgent.Foundation.Settling
import GuardAgent.Foundation.Surroundings
import GuardAgent.Foundation.Tickets
import GuardAgent.Text
import GuardAgent.Json
import GuardAgent.JsonText
import GuardAgent.Error
import GuardAgent.Config
import GuardAgent.Endpoint
import GuardAgent.Models
import GuardAgent.Utils
import GuardAgent.RedactedEntries
import GuardAgent.Encryption
import GuardAgent.InstallId
import GuardAgent.Canonical
import GuardAgent.Codec
import GuardAgent.LoggingUtils
import GuardAgent.Persistence
import GuardAgent.RedisClient
import GuardAgent.Transport.Wire
import GuardAgent.Transport.Send
import GuardAgent.Transport.Exchanges
import GuardAgent.Transport.Splitting
import GuardAgent.Transport.Delivery
import GuardAgent.Transport.Acknowledged
import GuardAgent.Transport.Bodies
import GuardAgent.Transport.Receiver
import GuardAgent.Transport.Transparency
import GuardAgent.Transport.Rules
import GuardAgent.Transport.CircuitBreaker
import GuardAgent.Transport.RateLimiter
import GuardAgent.Transport.Callers
import GuardAgent.Transport.Probes
import GuardAgent.Transport.Failures
import GuardAgent.Transport.Attempts
import GuardAgent.Transport.Traffic
import GuardAgent.Transport.Exhaustion
import GuardAgent.Transport.Spacing
import GuardAgent.Transport.Budget
import GuardAgent.Agent.Buffer
import GuardAgent.Agent.State
import GuardAgent.Agent.Backends
import GuardAgent.Agent.Tasks
import GuardAgent.Agent.Actions
import GuardAgent.Agent.Ledger
import GuardAgent.Agent.Conservation
import GuardAgent.Agent.Capacity
import GuardAgent.Agent.Status
import GuardAgent.Agent.Permits
import GuardAgent.Agent.Order
import GuardAgent.Agent.Backoff
import GuardAgent.Agent.FailOpen
import GuardAgent.Agent.Calls
import GuardAgent.Agent.Durability
import GuardAgent.Agent.Recovery
import GuardAgent.Agent.Counting
import GuardAgent.Agent.Cancellation
import GuardAgent.Agent.Resend
import GuardAgent.Agent.Sealing
import GuardAgent.Agent.Redaction
import GuardAgent.Agent.Lifecycle
import GuardAgent.Agent.Watermark
import GuardAgent.Agent.Overflow
import GuardAgent.Agent.Loops
import GuardAgent.Agent.LoopFailures
import GuardAgent.Agent.RulesCache
import GuardAgent.DynamicRules
import GuardAgent.Agent.FetchedRules
import GuardAgent.Agent.Persisted
import GuardAgent.Bridge
import GuardAgent.Agent.Received
import GuardAgent.Agent.Settling
import GuardAgent.Agent.Delivered

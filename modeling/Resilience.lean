import Resilience.Text.Blank
import Resilience.Text.Split
import Resilience.Text.Quoted
import Resilience.Number.Decimal
import Resilience.Time.Amount
import Resilience.Category
import Resilience.Policy.Validity
import Resilience.Policy.Field
import Resilience.Fault
import Resilience.Override
import Resilience.Policy.Document
import Resilience.Log
import Resilience.Sink.Memory
import Resilience.Sink.Stream
import Resilience.Time.Clock
import Resilience.Metrics
import Resilience.Backoff
import Resilience.Jitter
import Resilience.Breaker
import Resilience.Bulkhead
import Resilience.Policy.Registry
import Resilience.Behaviour
import Resilience.Fallback
import Resilience.Invocation
import Resilience.Sink
import Resilience.Engine.Answer
import Resilience.Engine.Schedule
import Resilience.Engine.Control
import Resilience.Document.Json
import Resilience.Proofs.Bulkhead.Conservation
import Resilience.Proofs.Breaker.Permits
import Resilience.Proofs.Breaker.Window
import Resilience.Proofs.Engine.Sampling
import Resilience.Proofs.Bulkhead.Order
import Resilience.Proofs.Policy.Registry
import Resilience.Proofs.Policy.Overlay
import Resilience.Proofs.Breaker.Probe
import Resilience.Proofs.Invocation.Admission
import Resilience.Proofs.Engine.Custody
import Resilience.Proofs.Engine.Leaks
import Resilience.Proofs.Breaker.Recovery
import Resilience.Proofs.Breaker.Stale
import Resilience.Proofs.Engine.Cancellation
import Resilience.Proofs.Engine.Chronicle
import Resilience.Proofs.Engine.Narration
import Resilience.Proofs.Engine.Faults
import Resilience.Proofs.Engine.Limits
import Resilience.Proofs.Engine.Twins
import Resilience.Proofs.Engine.Substitution
import Resilience.Proofs.Retry.Budget
import Resilience.Proofs.Policy.Parameters
import Resilience.Proofs.Policy.Rendering
import Resilience.Proofs.Retry.Builders
import Resilience.Proofs.Engine.Transparency
import Resilience.Proofs.Breaker.Opening
import Resilience.Proofs.Override.Listing
import Resilience.Proofs.Retry.Band
import Resilience.Proofs.Policy.Clearing
import Resilience.Proofs.Policy.Undoing
import Resilience.Proofs.Time.Amount
import Resilience.Proofs.Sink.Memory
import Resilience.Proofs.Engine.Timeouts

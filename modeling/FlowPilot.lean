import FlowPilot.Dispatch.Fencing
import FlowPilot.Dispatch.Fairness
import FlowPilot.Dispatch.Leases
import FlowPilot.Dispatch.Conservation
import FlowPilot.Planning.Serialization
import FlowPilot.Planning.Agreement
import FlowPilot.Sandbox.ReceiptCap
import FlowPilot.Audit.Evidence
import FlowPilot.Trace.Full
import FlowPilot.Authority.BoundRuns
import FlowPilot.Control.MemoryVersions
import FlowPilot.Worker.Dispatcher
import FlowPilot.Web.Approval
import FlowPilot.Recovery.Starts
import FlowPilot.Browser.Closing
import FlowPilot.Browser.SafeStop
import FlowPilot.Browser.Budgets
import FlowPilot.Browser.Grounding
import FlowPilot.Agents.Outcome
import FlowPilot.Agents.HybridSafety
import FlowPilot.Agents.GlmUsage
import FlowPilot.Agents.Compression
import FlowPilot.Web.Polling
import FlowPilot.Control.RateLimit
import FlowPilot.Planning.Replan
import FlowPilot.Planning.StepMachine
import FlowPilot.Planning.Verifiable
import FlowPilot.Planning.ExecutorSafety
import FlowPilot.Planning.TaskFacts
import FlowPilot.Planning.ContextRuns
import FlowPilot.Planning.Summary
import FlowPilot.Control.Etag
import FlowPilot.Trace.Readable
import FlowPilot.Sandbox.JmlGrader
import FlowPilot.Sandbox.Replay
import FlowPilot.Agents.Repetition
import FlowPilot.Recovery.Runs
import FlowPilot.Approvals.Expiry
import FlowPilot.Recovery.Accepted
import FlowPilot.Trace.Viewed
import FlowPilot.Dispatch.Admissions

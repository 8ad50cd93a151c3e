import EngineResidency.Base.Checksum
import EngineResidency.Base.Codec
import EngineResidency.Base.Counter
import EngineResidency.Base.Discipline
import EngineResidency.Base.Framing
import EngineResidency.Base.Grammar
import EngineResidency.Base.Line
import EngineResidency.Base.Lists
import EngineResidency.Base.LiveIndex
import EngineResidency.Base.Machine
import EngineResidency.Base.Occupancy
import EngineResidency.Base.Outline
import EngineResidency.Base.Pool
import EngineResidency.Base.Saturation
import EngineResidency.Base.Selection
import EngineResidency.Base.UMap
import EngineResidency.Base.Wp
import EngineResidency.Coordinator.Addressing
import EngineResidency.Coordinator.Cleanup
import EngineResidency.Coordinator.Commands
import EngineResidency.Coordinator.Conversation
import EngineResidency.Coordinator.Correlation
import EngineResidency.Coordinator.Fence
import EngineResidency.Coordinator.Interrupted
import EngineResidency.Coordinator.Ledger
import EngineResidency.Coordinator.Lifetimes
import EngineResidency.Coordinator.Message
import EngineResidency.Coordinator.Outline
import EngineResidency.Coordinator.Owners
import EngineResidency.Coordinator.Payload
import EngineResidency.Coordinator.Programs
import EngineResidency.Coordinator.Projection
import EngineResidency.Coordinator.Recovery
import EngineResidency.Coordinator.Release
import EngineResidency.Coordinator.Responses
import EngineResidency.Coordinator.RoutedUse
import EngineResidency.Coordinator.Routers
import EngineResidency.Coordinator.Section
import EngineResidency.Coordinator.Session
import EngineResidency.Coordinator.SessionUse
import EngineResidency.Coordinator.Sources
import EngineResidency.Coordinator.Tally
import EngineResidency.Coordinator.Thread
import EngineResidency.Corruption
import EngineResidency.Economics
import EngineResidency.Economics.Aggregation
import EngineResidency.Economics.Comparison
import EngineResidency.Enums
import EngineResidency.Identities
import EngineResidency.Network.Answers
import EngineResidency.Network.Links
import EngineResidency.Network.Lockstep
import EngineResidency.Network.Results
import EngineResidency.Persistence.Format
import EngineResidency.Persistence.Layout
import EngineResidency.Persistence.ReadBack
import EngineResidency.Persistence.Recoverable
import EngineResidency.Persistence.RoundTrip
import EngineResidency.Protocol.Frame
import EngineResidency.Protocol.Send
import EngineResidency.Protocol.Stream
import EngineResidency.Readiness
import EngineResidency.Readiness.Meaning
import EngineResidency.Readiness.Relations
import EngineResidency.Readiness.Selection
import EngineResidency.Records
import EngineResidency.Runtime.Admission
import EngineResidency.Runtime.Atomicity
import EngineResidency.Runtime.Attempts
import EngineResidency.Runtime.Binding
import EngineResidency.Runtime.Bounds
import EngineResidency.Runtime.Capacity
import EngineResidency.Runtime.ConfigChange
import EngineResidency.Runtime.Currency
import EngineResidency.Runtime.Cutover
import EngineResidency.Runtime.Declared
import EngineResidency.Runtime.Drain
import EngineResidency.Runtime.DrainPhase
import EngineResidency.Runtime.Duplicates
import EngineResidency.Runtime.EpochEvidence
import EngineResidency.Runtime.Evidence
import EngineResidency.Runtime.Fence
import EngineResidency.Runtime.Generations
import EngineResidency.Runtime.Identity
import EngineResidency.Runtime.Incarnation
import EngineResidency.Runtime.Isolation
import EngineResidency.Runtime.Lifecycle
import EngineResidency.Runtime.LiveAttempt
import EngineResidency.Runtime.OldEpoch
import EngineResidency.Runtime.Operations
import EngineResidency.Runtime.Permits
import EngineResidency.Runtime.Publication
import EngineResidency.Runtime.References
import EngineResidency.Runtime.Replacement
import EngineResidency.Runtime.Restart
import EngineResidency.Runtime.SaveRecover
import EngineResidency.Runtime.ServingUse
import EngineResidency.Runtime.Slots
import EngineResidency.Runtime.Standby
import EngineResidency.Runtime.State
import EngineResidency.Runtime.Step
import EngineResidency.Runtime.Superseded
import EngineResidency.Runtime.Survivor
import EngineResidency.Runtime.Transition
import EngineResidency.Standby
import EngineResidency.Worker.Backend
import EngineResidency.Worker.Conversation
import EngineResidency.Worker.Lifecycle
import EngineResidency.Worker.Program

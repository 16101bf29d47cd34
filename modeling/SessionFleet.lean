import SessionFleet.Fleet.Offline
import SessionFleet.Heartbeat.Course
import SessionFleet.Identify.Patience
import SessionFleet.Proofs.RateLimit.Burst
import SessionFleet.Proofs.RateLimit.GlobalBlock
import SessionFleet.Proofs.RateLimit.SlotLedger
import SessionFleet.Proofs.RateLimit.FallingLimits
import SessionFleet.Proofs.RateLimit.TrustedWindow
import SessionFleet.Proofs.Session.Continuity
import SessionFleet.Rest.Client
import SessionFleet.Session.Course
import SessionFleet.Proofs.Identify.RoundLaws
import SessionFleet.Proofs.Identify.TurnRuns
import SessionFleet.Proofs.Identify.Spacing
import SessionFleet.Proofs.Identify.FirstCome
import SessionFleet.Proofs.Session.MissedAnswer
import SessionFleet.Proofs.Connection.ConnectionRuns
import SessionFleet.Proofs.Connection.OwnTurn
import SessionFleet.Proofs.Session.StaleTicks
import SessionFleet.Proofs.Session.GivenUp
import SessionFleet.Proofs.RateLimit.Forgetting
import SessionFleet.Proofs.RateLimit.Persistence
import SessionFleet.Proofs.Json.Stored
import SessionFleet.Proofs.Json.ReadBack
import SessionFleet.Proofs.Wire.RoundTrip
import SessionFleet.Proofs.RateLimit.AnnouncedBlocks
import SessionFleet.Proofs.Session.Delivery
import SessionFleet.Proofs.Connection.Milestones
import SessionFleet.Proofs.Connection.OwnOrders
import SessionFleet.Proofs.Connection.GivingUp
import SessionFleet.Proofs.Session.LeftBehind
import SessionFleet.Proofs.RateLimit.LearnedEndpoints
import SessionFleet.Proofs.RateLimit.SharedBuckets
import SessionFleet.Proofs.Connection.CleanEnds
import SessionFleet.Proofs.Connection.Noise
import SessionFleet.Proofs.Connection.OpenSockets
import SessionFleet.Proofs.Connection.Dismissal
import SessionFleet.Proofs.Fleet.FleetRuns
import SessionFleet.Proofs.Fleet.LifeCycle
import SessionFleet.Proofs.Fleet.ShownShards
import SessionFleet.Proofs.Identify.LockRuns
import SessionFleet.Proofs.Identify.SharedLocks
import SessionFleet.Proofs.Identify.LockWaits
import SessionFleet.Proofs.Fleet.Balance
import SessionFleet.Proofs.Fleet.Disruptions
import SessionFleet.Proofs.Connection.AttemptLimit
import SessionFleet.Proofs.Connection.AttemptWaits
import SessionFleet.Proofs.RateLimit.ResetClock
import SessionFleet.Proofs.Session.CloseCodes
import SessionFleet.Proofs.Rest.Retries
import SessionFleet.Proofs.Json.GrammarExact
import SessionFleet.Proofs.Wire.Acceptance
import SessionFleet.Proofs.Heartbeat.HealthHistory
import SessionFleet.Proofs.Heartbeat.PacerTrace
import SessionFleet.Proofs.Settings.Validation
import SessionFleet.Proofs.RateLimit.HeaderFields

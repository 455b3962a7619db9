import Drawer.Lib.Base64
import Drawer.Lib.Casts
import Drawer.Lib.Census
import Drawer.Lib.Coins
import Drawer.Lib.Decimal
import Drawer.Lib.Dict
import Drawer.Lib.Effect
import Drawer.Lib.Exposition
import Drawer.Lib.HashChain
import Drawer.Lib.Json
import Drawer.Lib.JsonBytes
import Drawer.Lib.JsonReader
import Drawer.Lib.JsonRecord
import Drawer.Lib.Lexical
import Drawer.Lib.Lines
import Drawer.Lib.Members
import Drawer.Lib.Newest
import Drawer.Lib.Numeral
import Drawer.Lib.ObjectText
import Drawer.Lib.Outcome
import Drawer.Lib.Rounding
import Drawer.Lib.Search
import Drawer.Lib.Sha256
import Drawer.Lib.Text
import Drawer.Lib.TokenBucket
import Drawer.Lib.Transition
import Drawer.Lib.Words
import Drawer.Spec.Analytics
import Drawer.Spec.BasicAuth
import Drawer.Spec.CashAnomalies
import Drawer.Spec.CashIntelligence
import Drawer.Spec.CashStore
import Drawer.Spec.CertIdentity
import Drawer.Spec.ChangeMaker
import Drawer.Spec.CommandQueue
import Drawer.Spec.Config
import Drawer.Spec.ContractServer
import Drawer.Spec.Crash
import Drawer.Spec.Dashboard
import Drawer.Spec.Denominations
import Drawer.Spec.DeviceTwin
import Drawer.Spec.DiskQueue
import Drawer.Spec.Dispense
import Drawer.Spec.EdgeCommands
import Drawer.Spec.EdgePlatform
import Drawer.Spec.EdgeStore
import Drawer.Spec.Enrollment
import Drawer.Spec.EventLog
import Drawer.Spec.Faults
import Drawer.Spec.FleetControl
import Drawer.Spec.FleetEvidence
import Drawer.Spec.FleetManager
import Drawer.Spec.FleetModels
import Drawer.Spec.FleetOperations
import Drawer.Spec.FleetRestart
import Drawer.Spec.FleetStore
import Drawer.Spec.Healthd
import Drawer.Spec.HttpServer
import Drawer.Spec.IdempotencyStore
import Drawer.Spec.IotClient
import Drawer.Spec.Journal
import Drawer.Spec.JournalText
import Drawer.Spec.Lifecycle
import Drawer.Spec.ManifestText
import Drawer.Spec.Metrics
import Drawer.Spec.OtaAgent
import Drawer.Spec.Patches
import Drawer.Spec.RateLimiter
import Drawer.Spec.Recovery
import Drawer.Spec.ReleaseService
import Drawer.Spec.Reply
import Drawer.Spec.RiskQueries
import Drawer.Spec.Router
import Drawer.Spec.Scale
import Drawer.Spec.SerialPos
import Drawer.Spec.ServiceMode
import Drawer.Spec.Shutter
import Drawer.Spec.Signed
import Drawer.Spec.StaleDevices
import Drawer.Spec.Sweep
import Drawer.Spec.Till
import Drawer.Spec.TwinClient
import Drawer.Spec.TwinFlush
import Drawer.Spec.TxnEngine
import Drawer.Spec.Veil
import Drawer.Spec.Vendors
import Drawer.Sanity.Agent
import Drawer.Sanity.CommandQueue
import Drawer.Sanity.Commands
import Drawer.Sanity.DiskQueue
import Drawer.Sanity.EdgeRuns
import Drawer.Sanity.EdgeStore
import Drawer.Sanity.Edits
import Drawer.Sanity.Engine
import Drawer.Sanity.EventLog
import Drawer.Sanity.Fleet
import Drawer.Sanity.FleetStore
import Drawer.Sanity.Healthd
import Drawer.Sanity.Heartbeats
import Drawer.Sanity.JournalLine
import Drawer.Sanity.Places
import Drawer.Sanity.Router
import Drawer.Sanity.Shutter
import Drawer.Sanity.Store
import Drawer.Sanity.Sweep
import Drawer.Sanity.Twin
import Drawer.Sanity.Unsaved
import Drawer.Proofs.Amounts
import Drawer.Proofs.Audit
import Drawer.Proofs.BasicAuth
import Drawer.Proofs.Busy
import Drawer.Proofs.CashAnomalies
import Drawer.Proofs.CashMix
import Drawer.Proofs.CashReads
import Drawer.Proofs.CashReplay
import Drawer.Proofs.CashScope
import Drawer.Proofs.CertIdentity
import Drawer.Proofs.Change
import Drawer.Proofs.CommandIds
import Drawer.Proofs.CommandPath
import Drawer.Proofs.ConfigFile
import Drawer.Proofs.ContractServer
import Drawer.Proofs.Crash
import Drawer.Proofs.Dashboard
import Drawer.Proofs.Deciders
import Drawer.Proofs.Delivery
import Drawer.Proofs.DenominationDrift
import Drawer.Proofs.DeviceChain
import Drawer.Proofs.Disabled
import Drawer.Proofs.Dispatch
import Drawer.Proofs.DispenseExit
import Drawer.Proofs.DoubleSweep
import Drawer.Proofs.Downgrade
import Drawer.Proofs.EdgeOperable
import Drawer.Proofs.EdgeRestart
import Drawer.Proofs.EventBinding
import Drawer.Proofs.EventChain
import Drawer.Proofs.ExactChange
import Drawer.Proofs.FailClosed
import Drawer.Proofs.FaultGate
import Drawer.Proofs.FleetControl
import Drawer.Proofs.FleetEvidence
import Drawer.Proofs.FleetRestart
import Drawer.Proofs.FlushRace
import Drawer.Proofs.Freshness
import Drawer.Proofs.Grammar
import Drawer.Proofs.HalfPatched
import Drawer.Proofs.HeartbeatOrder
import Drawer.Proofs.Histogram
import Drawer.Proofs.IotClient
import Drawer.Proofs.Isolation
import Drawer.Proofs.JournalRecord
import Drawer.Proofs.Lifecycle
import Drawer.Proofs.LogReplay
import Drawer.Proofs.Lossless
import Drawer.Proofs.LostSweep
import Drawer.Proofs.LowInventory
import Drawer.Proofs.Metrics
import Drawer.Proofs.MotionExclusion
import Drawer.Proofs.Placement
import Drawer.Proofs.PlaneRestart
import Drawer.Proofs.Publication
import Drawer.Proofs.QueueBytes
import Drawer.Proofs.QueueFile
import Drawer.Proofs.QueueOrder
import Drawer.Proofs.Race
import Drawer.Proofs.RateLimiter
import Drawer.Proofs.Reconciliation
import Drawer.Proofs.Recount
import Drawer.Proofs.Recovery
import Drawer.Proofs.Reinstall
import Drawer.Proofs.Rejected
import Drawer.Proofs.Retention
import Drawer.Proofs.Revocation
import Drawer.Proofs.RiskTotal
import Drawer.Proofs.Scale
import Drawer.Proofs.Sequence
import Drawer.Proofs.SerialLine
import Drawer.Proofs.ServiceLog
import Drawer.Proofs.ServiceMode
import Drawer.Proofs.ShutterEnds
import Drawer.Proofs.ShutterMotor
import Drawer.Proofs.ShutterTravel
import Drawer.Proofs.Signature
import Drawer.Proofs.StaleDevices
import Drawer.Proofs.StateFile
import Drawer.Proofs.Swallowed
import Drawer.Proofs.SweepLedger
import Drawer.Proofs.Tamper
import Drawer.Proofs.Till
import Drawer.Proofs.Tokens
import Drawer.Proofs.Torn
import Drawer.Proofs.TrustBundle
import Drawer.Proofs.TrustChain
import Drawer.Proofs.Truth
import Drawer.Proofs.TwinConvergence
import Drawer.Proofs.TwinQueue
import Drawer.Proofs.TwinRecord
import Drawer.Proofs.Unthrown

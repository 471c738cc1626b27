import NavArbiter.Estimator.Impaired
import NavArbiter.Main
import NavArbiter.Health.Json
import NavArbiter.Proofs.Alignment
import NavArbiter.Proofs.Journal
import NavArbiter.Proofs.JumpDelivery
import NavArbiter.Proofs.StatusLaws
import NavArbiter.Proofs.Flight
import NavArbiter.Proofs.HeightTilt
import NavArbiter.Proofs.FusionTimes
import NavArbiter.Proofs.Cooldown
import NavArbiter.Proofs.Demotion
import NavArbiter.Proofs.OutputGap
import NavArbiter.Proofs.Semidefinite
import NavArbiter.Proofs.Synchronisation
import NavArbiter.Proofs.Watchdog
import NavArbiter.Proofs.ElapsedTime
import NavArbiter.Proofs.Admission
import NavArbiter.Proofs.Consumption
import NavArbiter.Proofs.HoldPoint
import NavArbiter.Proofs.JointAiding
import NavArbiter.Proofs.Latches
import NavArbiter.Proofs.RecentResets
import NavArbiter.Proofs.WindValidity
import NavArbiter.Proofs.VisionHeight
import NavArbiter.Proofs.Ownership
import NavArbiter.Proofs.ReplayAccount
import NavArbiter.Proofs.HeightChoice
import NavArbiter.Proofs.HeightCommit
import NavArbiter.Proofs.Reselection
import NavArbiter.Proofs.GpsTransitions
import NavArbiter.Proofs.FlowStart
import NavArbiter.Proofs.GatedCorrection
import NavArbiter.Proofs.VisionTakeOver
import NavArbiter.Proofs.MagPolicy
import NavArbiter.Proofs.ResetDeltas
import NavArbiter.Proofs.HorizonLookup
import NavArbiter.Proofs.StatusWord
import NavArbiter.Proofs.Never
import NavArbiter.Proofs.FlowNoise
import NavArbiter.Proofs.UnorderedGate
import NavArbiter.Proofs.FlowDivisors
import NavArbiter.Proofs.StatusChanges
import NavArbiter.Proofs.DocumentGrammar
import NavArbiter.Proofs.RecordOrder
import NavArbiter.Proofs.PartialSettings

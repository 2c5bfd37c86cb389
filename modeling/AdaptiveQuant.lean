import AdaptiveQuant.Control.DecisionProtocol
import AdaptiveQuant.Evaluation.Matched
import AdaptiveQuant.Execution.OrderExpiry
import AdaptiveQuant.Execution.Supersession
import AdaptiveQuant.Forward.Approval
import AdaptiveQuant.Forward.ForcedReduction
import AdaptiveQuant.Forward.ForcedSells
import AdaptiveQuant.Ledger.Holdings
import AdaptiveQuant.Llm.OverlayBounds
import AdaptiveQuant.Persistence.CalendarSessions
import AdaptiveQuant.Persistence.ChampionSuccession
import AdaptiveQuant.Persistence.OosBudgetRun
import AdaptiveQuant.Persistence.OutcomeSnapshots
import AdaptiveQuant.Persistence.ShadowKeys
import AdaptiveQuant.Persistence.StoredStream
import AdaptiveQuant.Quant.AllocationVariance
import AdaptiveQuant.Quant.Q1Det
import AdaptiveQuant.Quant.RiskCap
import AdaptiveQuant.Quant.SignalInvariance
import AdaptiveQuant.Quant.SpreadVariance
import AdaptiveQuant.Research.DeltaSharpeInterval
import AdaptiveQuant.Research.EvidenceRun
import AdaptiveQuant.Research.FileRuntime
import AdaptiveQuant.Research.LifecycleService
import AdaptiveQuant.Research.MetaOosCausality
import AdaptiveQuant.Research.PlanDependence
import AdaptiveQuant.Research.WorkProtocol
import AdaptiveQuant.Risk.EpisodeRelease
import AdaptiveQuant.Risk.ReconciliationSound
import AdaptiveQuant.Risk.SeverityOrder
import AdaptiveQuant.Risk.TargetIdentity
import AdaptiveQuant.Runtime.ArmPayload
import AdaptiveQuant.Runtime.ArmVolatility
import AdaptiveQuant.Runtime.CanaryFills
import AdaptiveQuant.Runtime.CycleLease
import AdaptiveQuant.Runtime.ExecutionFills
import AdaptiveQuant.Runtime.MissingOverlay
import AdaptiveQuant.Runtime.PlannedSafety
import AdaptiveQuant.Runtime.ProspectiveQueue
import AdaptiveQuant.Runtime.Q1Scheduler
import AdaptiveQuant.Runtime.ReductionSells
import AdaptiveQuant.Runtime.ReleaseChecks
import AdaptiveQuant.Runtime.CoveredBuys

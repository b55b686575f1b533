import DynamicCssc.AvailableOrder
import DynamicCssc.BoundCompilation
import DynamicCssc.CampaignDocument
import DynamicCssc.CampaignProgress
import DynamicCssc.CampaignRuns
import DynamicCssc.CampaignSelections
import DynamicCssc.CampaignSteps
import DynamicCssc.CampaignTransitions
import DynamicCssc.CampaignView
import DynamicCssc.CloudProgram
import DynamicCssc.CloudProgramAccepts
import DynamicCssc.ComponentInvariants
import DynamicCssc.ControllerDocuments
import DynamicCssc.CounterSampler
import DynamicCssc.Cssc
import DynamicCssc.CsscCounting
import DynamicCssc.CsscGeometry
import DynamicCssc.DeltaPieces
import DynamicCssc.EffectiveRow
import DynamicCssc.Events
import DynamicCssc.F1mMasks
import DynamicCssc.F1mSecrecy
import DynamicCssc.Failure
import DynamicCssc.FormalCampaign
import DynamicCssc.Foundation.Bisect
import DynamicCssc.Foundation.ByteLayout
import DynamicCssc.Foundation.Checked
import DynamicCssc.Foundation.Decimal
import DynamicCssc.Foundation.DecimalExpansion
import DynamicCssc.Foundation.DecimalOrder
import DynamicCssc.Foundation.Dict
import DynamicCssc.Foundation.Frontier
import DynamicCssc.Foundation.Grid
import DynamicCssc.Foundation.Intervals
import DynamicCssc.Foundation.Json
import DynamicCssc.Foundation.JsonCanonical
import DynamicCssc.Foundation.JsonInjective
import DynamicCssc.Foundation.JsonLoads
import DynamicCssc.Foundation.Loop
import DynamicCssc.Foundation.Netting
import DynamicCssc.Foundation.Outcome
import DynamicCssc.Foundation.PyJson
import DynamicCssc.Foundation.PyNumber
import DynamicCssc.Foundation.Residues
import DynamicCssc.Foundation.Runs
import DynamicCssc.Foundation.Shuffle
import DynamicCssc.Foundation.SlidingWindow
import DynamicCssc.Foundation.Sorting
import DynamicCssc.Foundation.StraightLine
import DynamicCssc.Foundation.Streaming
import DynamicCssc.Foundation.Strided
import DynamicCssc.Foundation.Tables
import DynamicCssc.Foundation.Transaction
import DynamicCssc.Foundation.ZeroSum
import DynamicCssc.FractionText
import DynamicCssc.HidingExecution
import DynamicCssc.KeyFraming
import DynamicCssc.LaneIndexes
import DynamicCssc.LanePatches
import DynamicCssc.MaskLedger
import DynamicCssc.MaskLedgerSafety
import DynamicCssc.MaskLedgerSteps
import DynamicCssc.MaskedShares
import DynamicCssc.MetadataFraming
import DynamicCssc.OracleLanes
import DynamicCssc.OracleRuns
import DynamicCssc.OrdinaryQueryLifecycle
import DynamicCssc.OutputPlan
import DynamicCssc.PlaintextOracle
import DynamicCssc.PlanPieces
import DynamicCssc.PreparationBytes
import DynamicCssc.PreparationCodec
import DynamicCssc.PreparationValid
import DynamicCssc.ProgramScan
import DynamicCssc.PublicationTraces
import DynamicCssc.PublicationWindows
import DynamicCssc.PublishBlocks
import DynamicCssc.PublishComponent
import DynamicCssc.PublishDecode
import DynamicCssc.PublishLayout
import DynamicCssc.PublishRequest
import DynamicCssc.PublishReturned
import DynamicCssc.PublishValid
import DynamicCssc.PublishedComponents
import DynamicCssc.QueryAccepted
import DynamicCssc.QueryCompiler
import DynamicCssc.QueryCompiles
import DynamicCssc.QueryCorrect
import DynamicCssc.QueryDelivery
import DynamicCssc.QueryDraft
import DynamicCssc.QueryEmission
import DynamicCssc.QueryNames
import DynamicCssc.QueryOperands
import DynamicCssc.QueryOutcomes
import DynamicCssc.QueryPieces
import DynamicCssc.QueryPreparation
import DynamicCssc.QueryReduction
import DynamicCssc.QuerySources
import DynamicCssc.RawCompile
import DynamicCssc.RawQueryCorrect
import DynamicCssc.RawReading
import DynamicCssc.RawSources
import DynamicCssc.RotationReduction
import DynamicCssc.RouteAResolves
import DynamicCssc.RouteASchedule
import DynamicCssc.RouteAWindows
import DynamicCssc.Span80
import DynamicCssc.Span80Dense
import DynamicCssc.Span80Optimal
import DynamicCssc.Span80Sparse
import DynamicCssc.StrongExecution
import DynamicCssc.StrongPackedCoo
import DynamicCssc.TraceAgreement
import DynamicCssc.TraceClosedForm
import DynamicCssc.TraceLoader
import DynamicCssc.TraceReplay
import DynamicCssc.UniformProgram
import DynamicCssc.WindowTimes

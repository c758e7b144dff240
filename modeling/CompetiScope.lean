import CompetiScope.Agents.AnalystMerge
import CompetiScope.Agents.BranchFrames
import CompetiScope.Agents.CardCitations
import CompetiScope.Agents.ClaimCardAccounts
import CompetiScope.Agents.ClaimCards
import CompetiScope.Agents.ClearedOutputs
import CompetiScope.Agents.DecisionCards
import CompetiScope.Agents.EvidenceAttribution
import CompetiScope.Agents.GroundedClaims
import CompetiScope.Agents.KnowledgeSlots
import CompetiScope.Agents.MatrixCells
import CompetiScope.Agents.MatrixWinners
import CompetiScope.Agents.MergeOrder
import CompetiScope.Agents.PhaseQa
import CompetiScope.Agents.Recommendations
import CompetiScope.Agents.UserResearch
import CompetiScope.Agents.WinnerSoundness
import CompetiScope.Auth.AccessPolicy
import CompetiScope.Auth.FailClosed
import CompetiScope.BusinessIntel.CitationConvergence
import CompetiScope.BusinessIntel.CitationPolicy
import CompetiScope.BusinessIntel.ClaimValidator
import CompetiScope.BusinessIntel.EvidenceGaps
import CompetiScope.BusinessIntel.EvidenceStrength
import CompetiScope.BusinessIntel.ForeignCitations
import CompetiScope.BusinessIntel.GateCitations
import CompetiScope.BusinessIntel.GateSoundness
import CompetiScope.BusinessIntel.HiddenFindings
import CompetiScope.BusinessIntel.ReleaseGate
import CompetiScope.BusinessIntel.ReleaseRepair
import CompetiScope.BusinessIntel.RepairFrame
import CompetiScope.BusinessIntel.ReportSections
import CompetiScope.BusinessIntel.ValidationMonotone
import CompetiScope.Crawler.AwaitedFetch
import CompetiScope.Crawler.DomainPolicy
import CompetiScope.Crawler.FetchCalls
import CompetiScope.Crawler.Fetcher
import CompetiScope.Crawler.Frontier
import CompetiScope.Crawler.FrontierRuns
import CompetiScope.Crawler.GuardedRequests
import CompetiScope.Crawler.LostPermits
import CompetiScope.Crawler.Politeness
import CompetiScope.Crawler.SettledFetches
import CompetiScope.Enterprise.ApprovalMetadata
import CompetiScope.Enterprise.AuditTrail
import CompetiScope.Enterprise.BackendStores
import CompetiScope.Enterprise.EmbeddingIndex
import CompetiScope.Enterprise.EvidenceLifecycle
import CompetiScope.Enterprise.GatedContent
import CompetiScope.Enterprise.JoinedLines
import CompetiScope.Enterprise.MemoryStore
import CompetiScope.Enterprise.MonitorJobs
import CompetiScope.Enterprise.PostgresText
import CompetiScope.Enterprise.Projection
import CompetiScope.Enterprise.ProjectionReplay
import CompetiScope.Enterprise.PublicationApproval
import CompetiScope.Enterprise.PublicationScope
import CompetiScope.Enterprise.ReindexDuplicates
import CompetiScope.Enterprise.ReportDiff
import CompetiScope.Enterprise.ReportLifecycle
import CompetiScope.Enterprise.ReportOperations
import CompetiScope.Enterprise.ReportStability
import CompetiScope.Enterprise.ReportSteps
import CompetiScope.Enterprise.ReportVersions
import CompetiScope.Enterprise.ReviewerDecisions
import CompetiScope.Enterprise.SanitizedValues
import CompetiScope.Enterprise.StartedRuns
import CompetiScope.Enterprise.WorkspaceUsage
import CompetiScope.Foundation.Apart
import CompetiScope.Foundation.Blocks
import CompetiScope.Foundation.Collections
import CompetiScope.Foundation.Dict
import CompetiScope.Foundation.GreedyPick
import CompetiScope.Foundation.Grouped
import CompetiScope.Foundation.Indexed
import CompetiScope.Foundation.Json
import CompetiScope.Foundation.LastPlace
import CompetiScope.Foundation.LastPlaced
import CompetiScope.Foundation.LineSections
import CompetiScope.Foundation.Lines
import CompetiScope.Foundation.Logged
import CompetiScope.Foundation.NestedRank
import CompetiScope.Foundation.Numerals
import CompetiScope.Foundation.Pairings
import CompetiScope.Foundation.Patterns
import CompetiScope.Foundation.PlacedPieces
import CompetiScope.Foundation.Replay
import CompetiScope.Foundation.Repr
import CompetiScope.Foundation.Rows
import CompetiScope.Foundation.Selection
import CompetiScope.Foundation.Slices
import CompetiScope.Foundation.SnapshotLists
import CompetiScope.Foundation.SoleLeader
import CompetiScope.Foundation.Spans
import CompetiScope.Foundation.StableSort
import CompetiScope.Foundation.Table
import CompetiScope.Foundation.Tally
import CompetiScope.Foundation.Text
import CompetiScope.Foundation.Transition
import CompetiScope.Foundation.UrlSyntax
import CompetiScope.Foundation.Words
import CompetiScope.I18n.Mojibake
import CompetiScope.I18n.ReportLabels
import CompetiScope.Identity.IdentityKeys
import CompetiScope.Identity.JsonIdentity
import CompetiScope.Identity.LayeredNormalisation
import CompetiScope.Identity.ReaderMarkers
import CompetiScope.Identity.ReportVersionSources
import CompetiScope.Identity.SourceMarkers
import CompetiScope.Identity.SourcePieces
import CompetiScope.Identity.SourceResolver
import CompetiScope.Identity.SourceTokens
import CompetiScope.Identity.SpacedTokens
import CompetiScope.Identity.StableIds
import CompetiScope.Identity.StandingTexts
import CompetiScope.Identity.TokenCounts
import CompetiScope.Identity.TokenNormalisation
import CompetiScope.Knowledge.BatchDedup
import CompetiScope.Knowledge.CoveredChunks
import CompetiScope.Knowledge.Documents
import CompetiScope.Knowledge.IngestRetries
import CompetiScope.Knowledge.Ingestion
import CompetiScope.Knowledge.LiveDocuments
import CompetiScope.Knowledge.Operations
import CompetiScope.Knowledge.PostProcess
import CompetiScope.Knowledge.RankFusion
import CompetiScope.Knowledge.TtlCache
import CompetiScope.Knowledge.VersionLineage
import CompetiScope.Llm.JsonExtract
import CompetiScope.Memory.PreferenceStore
import CompetiScope.Memory.RecallFrame
import CompetiScope.Memory.StatusMachine
import CompetiScope.Orchestrator.AgentMessages
import CompetiScope.Orchestrator.BranchCoverage
import CompetiScope.Orchestrator.CardSources
import CompetiScope.Orchestrator.CollectorRedoSources
import CompetiScope.Orchestrator.EventStreams
import CompetiScope.Orchestrator.FinalQa
import CompetiScope.Orchestrator.Graph
import CompetiScope.Orchestrator.HitlPhases
import CompetiScope.Orchestrator.HitlResume
import CompetiScope.Orchestrator.HitlSteps
import CompetiScope.Orchestrator.HomepageMaps
import CompetiScope.Orchestrator.JournalReads
import CompetiScope.Orchestrator.RedoClosure
import CompetiScope.Orchestrator.RedoCoverage
import CompetiScope.Orchestrator.RedoPreparation
import CompetiScope.Orchestrator.RedoRefusal
import CompetiScope.Orchestrator.RedoSelection
import CompetiScope.Orchestrator.RevisionBookkeeping
import CompetiScope.Orchestrator.RevisionLog
import CompetiScope.Orchestrator.ServedRun
import CompetiScope.Orchestrator.SourceIds
import CompetiScope.Orchestrator.State
import CompetiScope.Orchestrator.Termination
import CompetiScope.Rag.Chunker
import CompetiScope.Rag.FilledGaps
import CompetiScope.Rag.GapFill
import CompetiScope.Research.AdmittedFields
import CompetiScope.Research.Candidates
import CompetiScope.Research.CaptureSelection
import CompetiScope.Research.CaptureWindow
import CompetiScope.Research.EvidenceAdmission
import CompetiScope.Research.FieldQuotes
import CompetiScope.Research.FieldReadings
import CompetiScope.Research.PageExtraction
import CompetiScope.Research.PricingAttribution
import CompetiScope.Research.PricingFields
import CompetiScope.Research.PricingModel
import CompetiScope.Research.QuoteWindows
import CompetiScope.Research.QuotedFields
import CompetiScope.Research.TermExtractors
import CompetiScope.Runtime.CreateCommands
import CompetiScope.Runtime.DuplicateSuppression
import CompetiScope.Runtime.PipelineClaims
import CompetiScope.Runtime.RunCommands
import CompetiScope.Runtime.RunsKept
import CompetiScope.Runtime.SingleExecution
import CompetiScope.Runtime.TenantIsolation
import CompetiScope.Runtime.WorkspaceQuota
import CompetiScope.Schema.Enterprise
import CompetiScope.Schema.Knowledge
import CompetiScope.Schema.Monitoring
import CompetiScope.Schema.Run
import CompetiScope.Sources.Matching
import CompetiScope.Sources.SourceKinds
import CompetiScope.Workflows.ApprovalRetries
import CompetiScope.Workflows.MonitorCycle
import CompetiScope.Workflows.ReportApproval
import CompetiScope.Workflows.RequestTranslation
import CompetiScope.Writer.HeadingKeys
import CompetiScope.Writer.LayerSplit
import CompetiScope.Writer.StructuredRepair
import CompetiScope.Writer.StructuredReport

import GeoRisk.Lib.Numerals
import GeoRisk.Lib.Table
import GeoRisk.Lib.Runs
import GeoRisk.Lib.ReadCommitted
import GeoRisk.Lib.Traces
import GeoRisk.Lib.Dag
import GeoRisk.SharedKernel
import GeoRisk.PyFloat
import GeoRisk.FloatRounding
import GeoRisk.Orchestration.Workflow
import GeoRisk.Orchestration.Template
import GeoRisk.Orchestration.Entity
import GeoRisk.Orchestration.Handlers
import GeoRisk.Orchestration.Engine
import GeoRisk.Orchestration.EngineRun
import GeoRisk.Orchestration.EngineInvariant
import GeoRisk.Orchestration.StartWorkflow
import GeoRisk.Orchestration.StuckStage
import GeoRisk.Orchestration.Api
import GeoRisk.Orchestration.StageOrder
import GeoRisk.Orchestration.Validated
import GeoRisk.Orchestration.ConcurrentStages
import GeoRisk.Orchestration.LostUpdate
import GeoRisk.Identity.Tokens
import GeoRisk.Identity.Users
import GeoRisk.Identity.Store
import GeoRisk.Identity.Auth
import GeoRisk.Identity.Chains
import GeoRisk.Identity.Accounts
import GeoRisk.Identity.Writes
import GeoRisk.Identity.Commands
import GeoRisk.Identity.Work
import GeoRisk.Identity.History
import GeoRisk.Identity.Sessions
import GeoRisk.Identity.FinalRevocation
import GeoRisk.Identity.ReuseDetection
import GeoRisk.Identity.LogoutFrame
import GeoRisk.Identity.Interleaving
import GeoRisk.Identity.Rotation
import GeoRisk.Identity.RevocationRaces
import GeoRisk.Identity.LastOwner
import GeoRisk.Identity.Credentials
import GeoRisk.Identity.ResetTokens
import GeoRisk.Reporting.Report
import GeoRisk.Reporting.Handlers
import GeoRisk.Reporting.Isolation
import GeoRisk.Uuid
import GeoRisk.Api.ErrorHandling
import GeoRisk.Api.Disclosure
import GeoRisk.DataAcquisition.Catalog
import GeoRisk.DataAcquisition.FeatureExtraction
import GeoRisk.DataAcquisition.Storage
import GeoRisk.DataAcquisition.ContentValidation
import GeoRisk.DataAcquisition.ShapefileImporter
import GeoRisk.DataAcquisition.AcquisitionJob
import GeoRisk.DataAcquisition.Handlers
import GeoRisk.Lib.Results
import GeoRisk.DataAcquisition.Writes
import GeoRisk.Lib.Versions
import GeoRisk.DataAcquisition.VersionChain
import GeoRisk.Prediction.PredictionRun
import GeoRisk.Prediction.Handlers
import GeoRisk.Api.PredictionPorts
import GeoRisk.Api.VariableIsolation
import GeoRisk.Lib.Pages
import GeoRisk.Validation.ValidationRun
import GeoRisk.Api.LatestValidation
import GeoRisk.Notification.Notification
import GeoRisk.Api.AlertDashboard
import GeoRisk.Lib.Numbering
import GeoRisk.Outbox
import GeoRisk.Identity.LoginHandler
import GeoRisk.OutboxOrder
import GeoRisk.Reporting.Transactions
import GeoRisk.Reporting.Immutability
import GeoRisk.Analysis.StageResult
import GeoRisk.Analysis.Handlers
import GeoRisk.Analysis.Versions
import GeoRisk.Prediction.Transactions
import GeoRisk.Reporting.Versions
import GeoRisk.EvidenceVersions
import GeoRisk.DataAcquisition.FeatureAccounting
import GeoRisk.DataAcquisition.Pipeline
import GeoRisk.DataAcquisition.StuckJob
import GeoRisk.DataAcquisition.Executions
import GeoRisk.DataAcquisition.ExecutionRaces
import GeoRisk.Orchestration.Lifecycle
import GeoRisk.Orchestration.Acceptance
import GeoRisk.Geospatial.AreaOfInterest
import GeoRisk.Geospatial.ActiveAoi
import GeoRisk.Geospatial.Sampling
import GeoRisk.Geospatial.SamplingCampaign
import GeoRisk.Lib.Base64
import GeoRisk.Lib.Calendar
import GeoRisk.Cursors
import GeoRisk.Lib.Reader
import GeoRisk.Listings
import GeoRisk.Lib.Rounding
import GeoRisk.Lib.GaussJordan
import GeoRisk.Lib.LeastSquares
import GeoRisk.Prediction.Regression
import GeoRisk.Prediction.FloatRegression
import GeoRisk.Validation.RegressionMetrics
import GeoRisk.Api.ValidationPorts
import GeoRisk.Lib.Entropy
import GeoRisk.Analysis.Firas.Ewm
import GeoRisk.FloatRepr
import GeoRisk.Notification.EarlyWarning
import GeoRisk.Notification.EvaluateAlertRules
import GeoRisk.Notification.AlertsOnRecord
import GeoRisk.Api.NotificationPorts
import GeoRisk.Lib.Ranks
import GeoRisk.Prediction.Correlation
import GeoRisk.Validation.Roc
import GeoRisk.Validation.Classification
import GeoRisk.Validation.ClassificationMetrics
import GeoRisk.Prediction.SampleSizes
import GeoRisk.Analysis.Wrras.Monotone
import GeoRisk.Api.PredictionData
import GeoRisk.Geospatial.Allocation
import GeoRisk.FloatText
import GeoRisk.Geospatial.RawGeometry
import GeoRisk.Geospatial.Measurable
import GeoRisk.Geospatial.ExactStatistics
import GeoRisk.AverageRanks
import GeoRisk.Geospatial.ExactContainment
import GeoRisk.RateLimiting
import GeoRisk.Analysis.RiskLayerGenerator
import GeoRisk.Reporting.Mappers
import GeoRisk.Validation.Mappers
import GeoRisk.Prediction.Mappers
import GeoRisk.Orchestration.Mappers
import GeoRisk.Storage
import GeoRisk.Lib.Replay
import GeoRisk.EventLog
import GeoRisk.Orchestration.EventReplay
import GeoRisk.DataAcquisition.DatasetOrigin
import GeoRisk.Api.AnalysisPorts
import GeoRisk.Analysis.Firas.Calculators
import GeoRisk.Lib.Outcomes
import GeoRisk.Analysis.Reading
import GeoRisk.Analysis.Firas.Observation
import GeoRisk.Analysis.IndexRange
import GeoRisk.Analysis.Computation
import GeoRisk.Analysis.Wrras.Supporting
import GeoRisk.Analysis.Registration
import GeoRisk.PyNumber
import GeoRisk.Analysis.Firas.FloatCalculators
import GeoRisk.Analysis.Firas.FloatObservation
import GeoRisk.Analysis.Firas.Snapshots
import GeoRisk.Analysis.Firas.History
import GeoRisk.Analysis.DerivedRuns
import GeoRisk.Analysis.StageContracts
import GeoRisk.Analysis.DerivedStages
import GeoRisk.Api.StageExecutors
import GeoRisk.Api.StageEvidence
import GeoRisk.Api.StagesInOrder

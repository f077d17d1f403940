import FleetMonitor.Library.Rounding
import FleetMonitor.Library.Runs
import FleetMonitor.Library.Table
import FleetMonitor.Library.KeysetPaging
import FleetMonitor.Library.PartialUpdate
import FleetMonitor.Library.StoreMove
import FleetMonitor.Library.StaleWrites
import FleetMonitor.Library.StreamGroups
import FleetMonitor.Library.Validation
import FleetMonitor.Library.KeepFirst
import FleetMonitor.Library.OrderedQuery
import FleetMonitor.Library.Retry
import FleetMonitor.Library.ChunkedWrites
import FleetMonitor.Library.Valleys
import FleetMonitor.Library.JsonValue
import FleetMonitor.Library.PythonText
import FleetMonitor.Library.NewestWins
import FleetMonitor.Library.FileTree
import FleetMonitor.Library.PrunedScan
import FleetMonitor.Library.Replay
import FleetMonitor.Library.Calendar
import FleetMonitor.Cases.Schema
import FleetMonitor.Foundry.CaseFeed
import FleetMonitor.Salesforce.Org
import FleetMonitor.Cases.Pull
import FleetMonitor.Detection.EnrichedPositions
import FleetMonitor.Detection.Rules
import FleetMonitor.Detection.Deduplication
import FleetMonitor.Detection.GoAround
import FleetMonitor.Detection.ExcessiveHold
import FleetMonitor.Detection.LostSignal
import FleetMonitor.Detection.FeedSilence
import FleetMonitor.Detection.PlannedFlights
import FleetMonitor.Detection.CaseDetector
import FleetMonitor.Detection.CaseIdentity
import FleetMonitor.Cases.PullWatermark
import FleetMonitor.Cases.PullOverlap
import FleetMonitor.Cases.PullReplay
import FleetMonitor.Salesforce.Service
import FleetMonitor.Salesforce.Replies
import FleetMonitor.Salesforce.Triage
import FleetMonitor.Cases.Push
import FleetMonitor.Cases.ExactlyOnce
import FleetMonitor.Cases.RoundTrip
import FleetMonitor.Cases.Escalation
import FleetMonitor.Cases.CaseQuery
import FleetMonitor.Foundry.FlightLifecycle
import FleetMonitor.Foundry.FlightIds
import FleetMonitor.Foundry.FlightHistory
import FleetMonitor.Foundry.Materialization
import FleetMonitor.Foundry.SkippedTicks
import FleetMonitor.Foundry.SyncErrors
import FleetMonitor.Foundry.Ontology
import FleetMonitor.Foundry.LivePositions
import FleetMonitor.Positions.CurrentPositions
import FleetMonitor.Positions.LiveQuery
import FleetMonitor.Positions.FlightQuery
import FleetMonitor.Positions.FlightTrails
import FleetMonitor.Positions.ReadPaths
import FleetMonitor.Sites.Metar
import FleetMonitor.Sites.Conditions
import FleetMonitor.Sites.SiteQuery
import FleetMonitor.Sites.RegionOverride
import FleetMonitor.Foundry.SiteSync
import FleetMonitor.Foundry.AircraftReconcile
import FleetMonitor.Foundry.AircraftRaces
import FleetMonitor.Foundry.Mirroring
import FleetMonitor.Foundry.CaseMirror
import FleetMonitor.Foundry.CaseReconcile
import FleetMonitor.Foundry.CaseVersions
import FleetMonitor.Archive.FlightArchive
import FleetMonitor.Foundry.FlightModels
import FleetMonitor.Foundry.FlightEnrichment
import FleetMonitor.Foundry.EnrichmentFailures
import FleetMonitor.Foundry.EnrichmentRuns
import FleetMonitor.Foundry.FlightReconcile
import FleetMonitor.Foundry.LiveSet
import FleetMonitor.Foundry.FlightReconcileRuns
import FleetMonitor.Foundry.FlightWriters
import FleetMonitor.Archive.FlightJobs
import FleetMonitor.Archive.SelfHeal
import FleetMonitor.Foundry.MalformedIds
import FleetMonitor.Positions.PollOrder
import FleetMonitor.Positions.Ingestion
import FleetMonitor.Positions.RepeatedAircraft
import FleetMonitor.Archive.ColdStore
import FleetMonitor.Archive.Purge
import FleetMonitor.Archive.ArchiveWrites
import FleetMonitor.Archive.Retention
import FleetMonitor.Archive.AwareDatetime
import FleetMonitor.Archive.ArchiveReads
import FleetMonitor.Archive.PositionLake
import FleetMonitor.Positions.StateVectors
import FleetMonitor.Sites.MetarFields
import FleetMonitor.Sites.FlightCategories
import FleetMonitor.Foundry.SiteCategories
import FleetMonitor.Library.Collapse
import FleetMonitor.Foundry.TrailPaths
import FleetMonitor.Foundry.ApplyBatch
import FleetMonitor.Foundry.FlightIdCodec
import FleetMonitor.Foundry.RowOrder
import FleetMonitor.Foundry.CaseFlightLinks
import FleetMonitor.Library.PartialInserts
import FleetMonitor.Salesforce.CaseTriage
import FleetMonitor.Salesforce.TriageRuns
import FleetMonitor.Library.Histories
import FleetMonitor.Positions.OpenSkyClient
import FleetMonitor.Positions.BearerTokens
import FleetMonitor.Library.OldestFirst
import FleetMonitor.Positions.FlightPlans
import FleetMonitor.Positions.PlanCycles
import FleetMonitor.Positions.PlanTurns
import FleetMonitor.Foundry.OverlapGuard
import FleetMonitor.Library.Replacement
import FleetMonitor.Salesforce.Narrative
import FleetMonitor.Library.OwnedWrites
import FleetMonitor.Salesforce.NarrativeJobs
import FleetMonitor.Salesforce.NarrativeDrafts
import FleetMonitor.Cases.PushTurns
import FleetMonitor.Cases.Arrivals
import FleetMonitor.Cases.Resolutions
import FleetMonitor.Cases.TimelineChains
import FleetMonitor.Positions.Watchlist
import FleetMonitor.Library.Csv
import FleetMonitor.Reference.Airports
import FleetMonitor.Reference.AircraftRegistry
import FleetMonitor.Reference.StaticReference
import FleetMonitor.Detection.CaseIds
import FleetMonitor.Salesforce.AgentAction
import FleetMonitor.Reference.RegionTags
import FleetMonitor.Reference.SiteAirports

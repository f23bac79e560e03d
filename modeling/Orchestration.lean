import Orchestration.CommandLine.Command
import Orchestration.Execution.Summary
import Orchestration.Graph.Edit
import Orchestration.Main
import Orchestration.Proofs.DisplayIds
import Orchestration.Proofs.Executable
import Orchestration.Proofs.PublishedVersions
import Orchestration.Service.Route
import Orchestration.Store.Memory
import Orchestration.Store.Remote
import Orchestration.Proofs.GraphEdits
import Orchestration.Proofs.SortImage
import Orchestration.Proofs.Sorted
import Orchestration.Proofs.StructureLabels
import Orchestration.Proofs.Publication
import Orchestration.Proofs.Reloading
import Orchestration.Proofs.Rounding
import Orchestration.Proofs.DecimalValues
import Orchestration.Proofs.NumberText
import Orchestration.Proofs.StringText
import Orchestration.Proofs.DocumentText
import Orchestration.Proofs.WireFormat
import Orchestration.Proofs.ConventionalIds
import Orchestration.Proofs.HealthCounters
import Orchestration.Proofs.FreshLabels
import Orchestration.Proofs.OtherOrchestrators
import Orchestration.Proofs.NodeConstruction
import Orchestration.Proofs.MalformedDocuments
import Orchestration.Proofs.LostEdges
import Orchestration.Proofs.JourneyTargets
import Orchestration.Proofs.StoredReferences
import Orchestration.Proofs.ReportedEvents
import Orchestration.Proofs.RefusedRequests
import Orchestration.Proofs.LetterPaths
import Orchestration.Proofs.FanOut
import Orchestration.Proofs.FinishedRuns
import Orchestration.Proofs.RemoteAddresses
import Orchestration.Proofs.RemoteSaves
import Orchestration.Proofs.DanglingBranches
import Orchestration.Proofs.RebuiltChains
import Orchestration.Proofs.InertLabels
import Orchestration.Proofs.LogSummaries
import Orchestration.Proofs.AppendedEvents
import Orchestration.Proofs.ChainImports
import Orchestration.Proofs.LetterNumerals
import Orchestration.Proofs.BranchReaders
import Orchestration.Proofs.OlderCases
import Orchestration.Proofs.RemoteOutcomes

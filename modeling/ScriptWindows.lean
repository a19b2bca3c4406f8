import ScriptWindows.Files.Tree
import ScriptWindows.Host.EventLoop
import ScriptWindows.Main
import ScriptWindows.Script.Modules
import ScriptWindows.Proofs.Xml.Locality
import ScriptWindows.Proofs.Xml.Tags
import ScriptWindows.Proofs.Xml.Content
import ScriptWindows.Proofs.Files.Rewriting
import ScriptWindows.Proofs.Files.Rejections
import ScriptWindows.Proofs.Source.Attribution
import ScriptWindows.Proofs.Source.Spans
import ScriptWindows.Proofs.Manifest.Groups
import ScriptWindows.Proofs.Manifest.PatchRuns
import ScriptWindows.Proofs.Manifest.WrittenTrees
import ScriptWindows.Proofs.Manifest.RootPlaces
import ScriptWindows.Proofs.Bridge.Clients
import ScriptWindows.Proofs.Bridge.Commands
import ScriptWindows.Proofs.Bridge.Lifecycle
import ScriptWindows.Proofs.Bridge.Order
import ScriptWindows.Proofs.Bridge.Reports
import ScriptWindows.Proofs.Bridge.StrayTasks
import ScriptWindows.Proofs.Files.Generation
import ScriptWindows.Proofs.Files.GenerationRuns
import ScriptWindows.Proofs.Bridge.Histories
import ScriptWindows.Proofs.Bridge.Refusals
import ScriptWindows.Proofs.Bridge.Stopping
import ScriptWindows.Proofs.Bridge.Staging
import ScriptWindows.Proofs.Script.ReturnedParameters
import ScriptWindows.Proofs.Bridge.Waiting
import ScriptWindows.Proofs.Host.Clicks
import ScriptWindows.Proofs.Host.GoingOn
import ScriptWindows.Proofs.Bridge.RejectedCalls
import ScriptWindows.Proofs.Bridge.Imports
import ScriptWindows.Proofs.Manifest.Reparsing
import ScriptWindows.Proofs.Manifest.FolderOrder
import ScriptWindows.Proofs.Manifest.Faults
import ScriptWindows.Proofs.Source.Pages
import ScriptWindows.Proofs.Source.OriginFaults
import ScriptWindows.Proofs.Files.Components
import ScriptWindows.Proofs.Ui.Nests
import ScriptWindows.Proofs.Host.WindowLives

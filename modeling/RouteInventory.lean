import RouteInventory.Main
import RouteInventory.MemoryStore
import RouteInventory.Proofs.Pattern.Extent
import RouteInventory.Proofs.Pattern.Tiling
import RouteInventory.Proofs.Pattern.Grammar
import RouteInventory.Proofs.Pattern.Catalog
import RouteInventory.Proofs.Extraction.Declarations
import RouteInventory.Proofs.Endpoint.Sources
import RouteInventory.Proofs.Extraction.Secrets
import RouteInventory.Proofs.Pattern.Cut
import RouteInventory.Proofs.Extraction.LineBounded
import RouteInventory.Proofs.Inventory.Views
import RouteInventory.Proofs.Extraction.Names
import RouteInventory.Proofs.Parameters.QueryString
import RouteInventory.Proofs.Endpoint.Characters
import RouteInventory.Proofs.Inventory.QueryString
import RouteInventory.Proofs.Report.LineReports
import RouteInventory.Proofs.Extraction.WellFormed
import RouteInventory.Proofs.MemoryStore.History
import RouteInventory.Proofs.Report.JsonReports
import RouteInventory.Proofs.Collect.Exact
import RouteInventory.Proofs.Settings.Usable
import RouteInventory.Proofs.FolderScan.Failure
import RouteInventory.Proofs.FolderScan.Faults
import RouteInventory.Proofs.Disk.Growth
import RouteInventory.Proofs.Disk.Targets
import RouteInventory.Proofs.Disk.Writing
import RouteInventory.Proofs.Report.Frame
import RouteInventory.Proofs.Program.Outcome
import RouteInventory.Proofs.Disk.Under
import RouteInventory.Proofs.Disk.Extension
import RouteInventory.Proofs.Walk.RuleFiles
import RouteInventory.Proofs.Walk.AddedFiles
import RouteInventory.Proofs.Report.Again
import RouteInventory.Proofs.FolderScan.Checkout
import RouteInventory.Proofs.FolderScan.Again
import RouteInventory.Proofs.Disk.NewEntries
import RouteInventory.Proofs.UrlPath.Canonical
import RouteInventory.Proofs.UrlPath.Joining
import RouteInventory.Proofs.UrlPath.NormalForms
import RouteInventory.Proofs.Csv.RoundTrip
import RouteInventory.Proofs.Program.Environment
import RouteInventory.Proofs.Extraction.Comments
import RouteInventory.Proofs.Extraction.Parameters
import RouteInventory.Proofs.Extraction.Keywords
import RouteInventory.Proofs.OrderedSet.Runs
import RouteInventory.Proofs.Parameters.Decoding
import RouteInventory.Proofs.Endpoint.PathParameters
import RouteInventory.Proofs.Settings.Extensions
import RouteInventory.Proofs.MemoryStore.Tree
import RouteInventory.Proofs.FolderScan.FolderName
import RouteInventory.Proofs.Walk.Pruning
import RouteInventory.Proofs.Collect.Narrowing
import RouteInventory.Proofs.Endpoint.Variants

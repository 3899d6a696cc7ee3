import AssetOverlay.Host
import AssetOverlay.Session
import AssetOverlay.Proofs.Catalogue.Consistency
import AssetOverlay.Proofs.Catalogue.Loads
import AssetOverlay.Proofs.Catalogue.Scripts
import AssetOverlay.Proofs.File.Creation
import AssetOverlay.Proofs.Link.Simulation
import AssetOverlay.Proofs.Link.Calls
import AssetOverlay.Proofs.Reload.Assets
import AssetOverlay.Proofs.Reload.Counts
import AssetOverlay.Proofs.Reload.Reference
import AssetOverlay.Proofs.Reload.Stability
import AssetOverlay.Proofs.Session.Invariant
import AssetOverlay.Proofs.Link.Reentrancy
import AssetOverlay.Proofs.Session.Lifetime
import AssetOverlay.Proofs.Link.Recognition
import AssetOverlay.Proofs.Catalogue.Origin
import AssetOverlay.Proofs.Link.Detours
import AssetOverlay.Proofs.Reload.Accounting
import AssetOverlay.Proofs.Reload.Errors
import AssetOverlay.Proofs.Bytes.Words
import AssetOverlay.Proofs.Detour.Grammar
import AssetOverlay.Proofs.Script.Redirection
import AssetOverlay.Proofs.Key.Spelling
import AssetOverlay.Proofs.Link.Spelling
import AssetOverlay.Proofs.Detour.RoundTrip
import AssetOverlay.Proofs.Detour.Breakage
import AssetOverlay.Proofs.Detour.Truncation
import AssetOverlay.Proofs.Script.Behind
import AssetOverlay.Proofs.Script.Naming
import AssetOverlay.Proofs.StringTable.Layout
import AssetOverlay.Proofs.StringTable.Splitting
import AssetOverlay.Proofs.StringTable.Reports
import AssetOverlay.Proofs.StringTable.Faults
import AssetOverlay.Proofs.StringTable.Quoting
import AssetOverlay.Proofs.StringTable.Shape
import AssetOverlay.Proofs.Link.Short
import AssetOverlay.Proofs.Script.Again
import AssetOverlay.Proofs.Guarded.Blocks
import AssetOverlay.Proofs.Guarded.Scripts
import AssetOverlay.Proofs.Key.Literal
import AssetOverlay.Proofs.Number.Integers
import AssetOverlay.Proofs.StringTable.IntCells
import AssetOverlay.Proofs.Key.Mixing
import AssetOverlay.Proofs.Key.Printing
import AssetOverlay.Proofs.Settings.Quoting
import AssetOverlay.Proofs.File.Writing
import AssetOverlay.Proofs.Settings.RoundTrip
import AssetOverlay.Proofs.Json.Ordered
import AssetOverlay.Proofs.Package.Entries
import AssetOverlay.Proofs.Reload.Strays
import AssetOverlay.Proofs.Logging.Start

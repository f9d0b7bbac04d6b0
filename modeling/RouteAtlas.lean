import RouteAtlas.Main
import RouteAtlas.Proofs.Extraction.Hoisting
import RouteAtlas.Proofs.Run.Completeness
import RouteAtlas.Proofs.Run.Sequential
import RouteAtlas.Proofs.Manifest.Addresses
import RouteAtlas.Proofs.Manifest.Endpoints
import RouteAtlas.Proofs.Manifest.Agreement
import RouteAtlas.Proofs.Run.Load
import RouteAtlas.Proofs.Run.Precision
import RouteAtlas.Proofs.Run.TypeScript
import RouteAtlas.Proofs.Extraction.Modules
import RouteAtlas.Proofs.Extraction.Calls
import RouteAtlas.Proofs.Extraction.Options
import RouteAtlas.Proofs.Files.Placing
import RouteAtlas.Proofs.Files.Writing
import RouteAtlas.Proofs.Session.AllOrNothing
import RouteAtlas.Proofs.Extraction.Search
import RouteAtlas.Proofs.Manifest.Literals
import RouteAtlas.Proofs.Specifier.Targets
import RouteAtlas.Proofs.Specifier.Repetition
import RouteAtlas.Proofs.Files.Scanning
import RouteAtlas.Proofs.Files.LogicalPaths
import RouteAtlas.Proofs.Run.Feeding
import RouteAtlas.Proofs.Syntax.Faults
import RouteAtlas.Proofs.Report.Recovery

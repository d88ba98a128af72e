import ArtifactSearch.Main
import ArtifactSearch.Proofs.Load
import ArtifactSearch.Proofs.Query.DrillDown
import ArtifactSearch.Proofs.Service.Addressing
import ArtifactSearch.Proofs.Service.Traceless
import ArtifactSearch.Proofs.Service.Upload
import ArtifactSearch.Proofs.ShownPage
import ArtifactSearch.Proofs.Store.Revision
import ArtifactSearch.Proofs.Store.Slots
import ArtifactSearch.Proofs.Workbook.Mirror
import ArtifactSearch.Service.Basic
import ArtifactSearch.Workbook.Address
import ArtifactSearch.Proofs.Csv.Parity
import ArtifactSearch.Proofs.Store.Locality
import ArtifactSearch.Proofs.Export.Header
import ArtifactSearch.Proofs.Files.Folder
import ArtifactSearch.Proofs.Service.Inbox
import ArtifactSearch.Proofs.Query.Verbatim
import ArtifactSearch.Proofs.Query.Restriction
import ArtifactSearch.Proofs.Ranking
import ArtifactSearch.Proofs.Store.Independence
import ArtifactSearch.Proofs.Assembly
import ArtifactSearch.Proofs.Files.Discovery
import ArtifactSearch.Proofs.Reload
import ArtifactSearch.Proofs.Workbook.Injection
import ArtifactSearch.Proofs.Workbook.Fields
import ArtifactSearch.Proofs.Query.Casing
import ArtifactSearch.Proofs.Workbook.Stacking

import ArtifactSearch.CommandLine.Run
import ArtifactSearch.Proofs.Service.Reachable
import ArtifactSearch.Proofs.Service.Routing
import ArtifactSearch.Proofs.Store.Paging

/-!
# ArtifactSearch.Proofs.ShownPage

**The page of results that is shown**, by the service and on the command line. Both
have stores that came from the first one, so both have its page size
(`Service.Reachable.pageSize`, `CommandLine.pageSize_of_load`), and both show the page
that `Paging.shown` is about. The listing of the command line numbers the rows of the
page only, from the first number on; `Listing.results_eq` says that these are the
numbers the rows have among all results.
-/

namespace ArtifactSearch

/-! ### The service -/

namespace Service

theorem Reachable.pageSize {store : Store} (h : Reachable store) : store.pageSize = 100 := by
  obtain ⟨changes, rfl⟩ := h.exists_changes
  exact Store.pageSize_applyAll Store.initial changes

end Service

/-! ### The command line -/

namespace CommandLine

end CommandLine

/-! ### Both -/

end ArtifactSearch

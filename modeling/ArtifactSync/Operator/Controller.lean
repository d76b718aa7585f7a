import ArtifactSync.Operator.Pass

namespace ArtifactSync.Operator.Controller

-- A pass says itself how long to wait; after a failure it is the usual time.
def delay (config : Config) : Except Error Duration → Duration
  | .ok d => d
  | .error _ => config.requeueInterval

variable {m : Type → Type}

-- That many passes in a world that answers them and lets time go by.
def run [Monad m] (config : Config) (name : String) (world : (q : Question) → m (Answer q))
    (pause : Duration → m Unit) : (passes : Nat) → m Unit
  | 0 => return ()
  | passes + 1 => do
    let result ← (reconcile (.ofConfig config) config name).answeredBy world
    pause (delay config result)
    run config name world pause passes

end ArtifactSync.Operator.Controller

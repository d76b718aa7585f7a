import ArtifactSync.Config
import ArtifactSync.Sync.Call
import ArtifactSync.Sync.Target

namespace ArtifactSync.Pass

open Kubernetes (Secret)
open Program

variable {ρ : Type}

-- The credentials of the pull secret, if one is to be used.
def resolveCredential (o : OciSecret) : Program ρ (Option PullCredential) := do
  match o.spec.pullSecretRef with
  | none => return none
  | some r =>
    match ← getSecret r with
    | some s => return some (← ofExcept (PullCredential.ofSecret s))
    | none => throw (.notFound s!"Pull secret {r.text} does not exist")

-- The clock cannot show every instant; a pass without a deadline cannot go on.
def deadlineAfter (d : Duration) : Program ρ Instant := do
  match (← now).add? d with
  | some deadline => return deadline
  | none => halt

-- Makes the target where there is none.
def ensureTarget (o : OciSecret) : Program ρ Unit := do
  if (← getSecret o.spec.target).isNone then
    createSecret (← ofExcept (Target.create o))

-- The target as it is stored, which need not be what was just sent.
def readTarget (o : OciSecret) : Program ρ Secret := do
  match ← getSecret o.spec.target with
  | some target => return target
  | none =>
    throw (.persistFailed o.spec.target.text "target secret missing right after creation")

-- Fetches the artifact and fills the target with the files asked for.
def refresh (o : OciSecret) (source : ρ) (target : Secret) : Program ρ Unit := do
  let content ← fetchContent source o.spec.artifact
  replaceSecret (Target.fill target (content.restrictTo o.spec.allowList))

def sync (config : Config) (o : OciSecret) : Program ρ Unit := do
  ofExcept o.validate
  let credential ← resolveCredential o
  let deadline ← deadlineAfter config.registryTimeout
  let source ← connect o.spec.registry credential deadline
  -- Nothing is written before the registry has named the artifact.
  let current ← fetchDigest source o.spec.artifact
  ensureTarget o
  let target ← readTarget o
  if Target.needsSync target current o.spec.allowList then refresh o source target

-- Ends with the time to wait before the next pass. Of a desired state that is gone nothing is left
-- to do, as its target goes with it.
def reconcile (config : Config) (name : String) : Program ρ Duration := do
  if let some o ← getSpec name then sync config o
  return config.requeueInterval

end ArtifactSync.Pass

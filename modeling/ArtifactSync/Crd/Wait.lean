import ArtifactSync.Desired.Resource
import ArtifactSync.Duration
import ArtifactSync.Kubernetes.Discovery

namespace ArtifactSync.Crd

open Kubernetes

-- Whether the recommended version of the group is the known one and has the resource.
def isServed : Exchange (Except Discovery.Fault Bool) := do
  return (← Discovery.recommendedBy OciSecret.group).map fun served =>
    served.contains ⟨OciSecret.kind, OciSecret.version⟩

def firstInterval : Nat := 10

def longestInterval : Nat := 60

-- The seconds from one look-up to the next, given those before it.
def nextInterval (current : Nat) : Nat :=
  Nat.min (current * 2) longestInterval

variable {m : Type → Type} {ε : Type}

-- Whether the resource is found by one of that many look-ups.
def waitFrom [Monad m] (lookUp : m (Except ε Bool)) (pause : Duration → m Unit)
    (interval : Nat) : (lookUps : Nat) → m Bool
  | 0 => return false
  | lookUps + 1 => do
    match ← lookUp with
    | .ok true => return true
    | .ok false | .error _ =>
      pause (.ofSeconds interval)
      waitFrom lookUp pause (nextInterval interval) lookUps

def wait [Monad m] (lookUp : m (Except ε Bool)) (pause : Duration → m Unit) (lookUps : Nat) :
    m Bool :=
  waitFrom lookUp pause firstInterval lookUps

end ArtifactSync.Crd

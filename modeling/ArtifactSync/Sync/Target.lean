import ArtifactSync.Artifact.Content
import ArtifactSync.Desired.Resource
import ArtifactSync.Kubernetes.Secret

namespace ArtifactSync.Target

open Kubernetes (OwnerReference Secret)

-- The annotation that records which artifact the secret was last filled from.
def digestAnnotation : String := "OCISecret.operator.rev"

-- Recorded on a secret that was never filled.
def sentinel : Digest := ⟨"00000"⟩

def lastDigest? (s : Secret) : Option Digest :=
  (s.metadata.annotations.bind (·.find? digestAnnotation)).map Digest.mk

def storedFiles (s : Secret) : Nat :=
  (s.data.map (·.size)).getD 0

-- Filling is due when the artifact has another digest, and also when an allow-list names another
-- number of files than are stored: then an earlier pass stored too few, or the list was edited.
def needsSync (s : Secret) (current : Digest) (allow : List String) : Bool :=
  lastDigest? s ≠ some current || (!allow.isEmpty && storedFiles s ≠ allow.length)

def ownerReference? (owner : OciSecret) : Option OwnerReference := do
  return {
    apiVersion := OciSecret.apiVersion
    kind := OciSecret.kind
    name := ← owner.metadata.name
    uid := ← owner.metadata.uid
    controller := some true }

-- The empty target, owned by what asks for it.
def create (owner : OciSecret) : Except Error Secret :=
  let target := owner.spec.target
  match ownerReference? owner with
  | none => .error (.invalidSpec s!"OCISecret {owner.anyName} has no uid to own {target.text}")
  | some reference =>
    .ok {
      metadata := {
        name := some target.name
        «namespace» := some target.namespace
        -- A digest of an artifact has a colon in it, so this stands for none.
        annotations := some (.singleton digestAnnotation sentinel.text)
        ownerReferences := some [reference] }
      type := some "Opaque" }

-- Replaces the files and records the digest.
def fill (s : Secret) (content : Content) : Secret :=
  { s with
    data := some content.files
    stringData := none
    metadata := { s.metadata with
      annotations :=
        some ((s.metadata.annotations.getD ∅).insert digestAnnotation content.digest.text) } }

end ArtifactSync.Target

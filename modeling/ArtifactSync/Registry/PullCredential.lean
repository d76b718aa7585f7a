import ArtifactSync.Error
import ArtifactSync.Kubernetes.Secret

namespace ArtifactSync

open Kubernetes (Secret)

-- The bytes of a Docker config.
structure PullCredential where
  bytes : Bytes
  deriving DecidableEq

namespace PullCredential

-- The key of a pull secret that holds the credentials.
def key : String := ".dockerconfigjson"

def isEmpty (c : PullCredential) : Bool :=
  c.bytes.isEmpty

-- Tells the size and nothing of the content.
def description (c : PullCredential) : String :=
  s!"PullCredential({c.bytes.length} bytes)"

def ofSecret (s : Secret) : Except Error PullCredential :=
  match (s.data.bind (·.find? key)).filter (!·.isEmpty) with
  | some bytes => .ok ⟨bytes⟩
  | none => .error (.notFound s!"Pull secret {s.label} has no '{key}' key")

end PullCredential

end ArtifactSync

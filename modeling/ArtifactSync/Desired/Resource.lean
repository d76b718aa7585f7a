import ArtifactSync.Desired.Spec
import ArtifactSync.Error
import ArtifactSync.Kubernetes.Meta
import ArtifactSync.Text.Blank

namespace ArtifactSync

open Json (Field Reader Record Value required)
open Kubernetes (ObjectMeta)

structure OciSecret where
  metadata : ObjectMeta
  spec : Spec
  deriving Repr

namespace OciSecret

def group : String := "oci-sync.brtrm.de"

def version : String := "v1alpha1"

def kind : String := "OCISecret"

def plural : String := "ocisecrets"

def apiVersion : String := group ++ "/" ++ version

structure Draft where
  metadata : Option ObjectMeta := none
  spec : Option Spec := none

-- Whatever version and kind the object claims, only these two fields are read.
def record : Record Draft OciSecret where
  name := kind
  draft := {}
  fields := [
    ⟨"metadata", false, (·.metadata.isSome), fun d =>
      return { d with metadata := some (← ObjectMeta.reader) }⟩,
    ⟨"spec", false, (·.spec.isSome), fun d => return { d with spec := some (← Spec.reader) }⟩]
  build d := do
    let metadata ← required "metadata" d.metadata
    let spec ← required "spec" d.spec
    return ⟨metadata, spec⟩

def reader : Reader OciSecret :=
  record.reader

def toJson (o : OciSecret) : Value :=
  .object [
    ("apiVersion", .string apiVersion),
    ("kind", .string kind),
    ("metadata", o.metadata.toJson),
    ("spec", o.spec.toJson)]

def anyName (o : OciSecret) : String :=
  o.metadata.anyName

-- Refuses a spec without the parts that nothing can be done without.
def validate (o : OciSecret) : Except Error Unit :=
  if Text.isBlankText o.spec.artifact then
    .error (.invalidSpec "orasArtefact must not be empty")
  else if Text.isBlankText o.spec.registry then
    .error (.invalidSpec "ArtefactRegistry must not be empty")
  else if !o.spec.target.isComplete then
    .error (.invalidSpec "targetSecret needs both name and namespace")
  else .ok ()

end OciSecret

end ArtifactSync

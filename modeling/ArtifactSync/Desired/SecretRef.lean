import ArtifactSync.Json.Record
import ArtifactSync.Json.Value

namespace ArtifactSync

open Json (Field Reader Record Value)

structure SecretRef where
  givenName : Option String := none
  givenNamespace : Option String := none
  deriving DecidableEq, Repr

namespace SecretRef

def name (r : SecretRef) : String :=
  r.givenName.getD ""

def «namespace» (r : SecretRef) : String :=
  r.givenNamespace.getD ""

-- Both parts are there and not empty. Only such a reference can be followed.
def isComplete (r : SecretRef) : Bool :=
  !r.name.isEmpty && !r.namespace.isEmpty

def text (r : SecretRef) : String :=
  r.namespace ++ "/" ++ r.name

structure Draft where
  name : Option (Option String) := none
  «namespace» : Option (Option String) := none

def record : Record Draft SecretRef where
  name := "SecretRef"
  draft := {}
  fields := [
    ⟨"name", true, (·.name.isSome), fun d =>
      return { d with name := some (← Reader.optional Reader.string) }⟩,
    ⟨"namespace", true, (·.namespace.isSome), fun d =>
      return { d with «namespace» := some (← Reader.optional Reader.string) }⟩]
  build d := .ok ⟨d.name.join, d.namespace.join⟩

def reader : Reader SecretRef :=
  record.reader

def toJson (r : SecretRef) : Value :=
  .ofFields [("name", r.givenName.map .string), ("namespace", r.givenNamespace.map .string)]

end SecretRef

end ArtifactSync

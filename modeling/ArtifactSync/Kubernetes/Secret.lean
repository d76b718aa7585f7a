import ArtifactSync.Kubernetes.Meta
import ArtifactSync.Text.Base64

namespace ArtifactSync.Kubernetes

open Json (Reader Value)

structure Secret where
  metadata : ObjectMeta := {}
  data : Option (Dict Bytes) := none
  immutable : Option Bool := none
  stringData : Option (Dict String) := none
  type : Option String := none
  deriving Repr

namespace Secret

def apiVersion : String := "v1"

def kind : String := "Secret"

def bytes : Reader Bytes := do
  let decoded ← Reader.optional <| Reader.stringWith "base64-encoded string" fun s =>
    match Text.Base64.decode (bytesOf s) with
    | .ok bytes => .ok bytes
    | .error f => .error (.rejected f.message)
  return decoded.getD []

-- A member that, if given, can have only one value.
def constant (expected : String) : Reader Unit := do
  let found ← Reader.string
  if found ≠ expected then Reader.fail (.wrongValue (.string found) expected)

def entry (key : String) (s : Secret) : Reader Secret := do
  Reader.colon
  match key with
  | "apiVersion" =>
    constant apiVersion
    return s
  | "kind" =>
    constant kind
    return s
  | "metadata" => return { s with metadata := (← Reader.optional ObjectMeta.reader).getD {} }
  | "data" => return { s with data := ← Reader.optional (Reader.dict bytes) }
  | "immutable" => return { s with immutable := ← Reader.optional Reader.boolean }
  | "stringData" => return { s with stringData := ← Reader.optional textDict }
  | "type" => return { s with type := ← Reader.optional Reader.string }
  | _ =>
    Reader.skip
    return s

def reader : Reader Secret :=
  keyed kind entry {}

def toJson (s : Secret) : Value :=
  .ofFields [
    ("apiVersion", some (.string apiVersion)),
    ("kind", some (.string kind)),
    ("metadata", some s.metadata.toJson),
    ("data", s.data.map (.ofDict fun b => .string (Text.Base64.text b))),
    ("immutable", s.immutable.map .boolean),
    ("stringData", s.stringData.map (.ofDict .string)),
    ("type", s.type.map .string)]

def «namespace» (s : Secret) : String :=
  s.metadata.namespace.getD ""

def anyName (s : Secret) : String :=
  s.metadata.anyName

-- `namespace/name`, by which messages name a secret.
def label (s : Secret) : String :=
  s.namespace ++ "/" ++ s.anyName

end Secret

end ArtifactSync.Kubernetes

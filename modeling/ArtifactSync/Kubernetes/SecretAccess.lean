import ArtifactSync.Desired.Resource
import ArtifactSync.Kubernetes.Client
import ArtifactSync.Kubernetes.Secret

namespace ArtifactSync.Kubernetes.SecretAccess

def specCollection : String :=
  "/apis/" ++ OciSecret.apiVersion ++ "/" ++ OciSecret.plural

def collection (space : String) : String :=
  "/api/v1/namespaces/" ++ space ++ "/secrets"

def readResult {α : Type} (r : Except Client.Fault α) : Except Error α :=
  r.mapError fun f => .api f.message

def writeResult (s : Secret) (r : Except Client.Fault Secret) : Except Error Unit :=
  match r with
  | .ok _ => .ok ()
  | .error f => .error (.persistFailed s.label f.message)

def getSpec (name : String) : Exchange (Except Error (Option OciSecret)) :=
  readResult <$> Client.get OciSecret.reader specCollection name

def get (r : SecretRef) : Exchange (Except Error (Option Secret)) :=
  readResult <$> Client.get Secret.reader (collection r.namespace) r.name

def create (s : Secret) : Exchange (Except Error Unit) :=
  writeResult s <$> Client.create Secret.reader (collection s.namespace) s.toJson

def replace (s : Secret) : Exchange (Except Error Unit) :=
  writeResult s <$> Client.replace Secret.reader (collection s.namespace) s.anyName s.toJson

end ArtifactSync.Kubernetes.SecretAccess

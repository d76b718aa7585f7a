import ArtifactSync.Desired.Resource
import ArtifactSync.Error
import ArtifactSync.Kubernetes.Secret

namespace ArtifactSync

open Kubernetes (Secret)

structure Store where
  specs : Dict OciSecret := ∅
  secrets : Dict Secret := ∅
  -- How many writes there have been.
  writes : Nat := 0
  deriving Repr

namespace Store

-- What no writer can tell apart has one key.
def key (s : Secret) : String := s.label

def withVersion (s : Secret) (n : Nat) : Secret :=
  { s with metadata := { s.metadata with resourceVersion := some (toString n) } }

-- Writes a secret whatever is there.
def put (st : Store) (s : Secret) : Store :=
  { st with
    secrets := st.secrets.insert (key s) (withVersion s (st.writes + 1))
    writes := st.writes + 1 }

def delete (st : Store) (k : String) : Store :=
  { st with secrets := st.secrets.erase k }

def putSpec (st : Store) (o : OciSecret) : Store :=
  { st with specs := st.specs.insert o.anyName o }

def deleteSpec (st : Store) (name : String) : Store :=
  { st with specs := st.specs.erase name }

def spec? (st : Store) (name : String) : Option OciSecret :=
  st.specs.find? name

def secret? (st : Store) (r : SecretRef) : Option Secret :=
  st.secrets.find? r.text

def create (st : Store) (s : Secret) : Except Error Store :=
  match st.secrets.find? (key s) with
  | some _ => .error (.persistFailed (key s) "already exists")
  | none => .ok (st.put s)

def isCurrent (st : Store) (s : Secret) : Bool :=
  match st.secrets.find? (key s) with
  | some stored => stored.metadata.resourceVersion = s.metadata.resourceVersion
  | none => false

def replace (st : Store) (s : Secret) : Except Error Store :=
  if st.isCurrent s then .ok (st.put s) else .error (.persistFailed (key s) "conflict")

end Store

end ArtifactSync

import ArtifactSync.Dict
import ArtifactSync.Kubernetes.ApiFailure
import ArtifactSync.Kubernetes.Exchange

namespace ArtifactSync.Kubernetes

open Json (Value)

structure Server where
  objects : Dict Value := ∅
  -- How many writes there have been. Every write gives the object a version of its own.
  writes : Nat := 0
  deriving Repr

namespace Server

def metadata (v : Value) : Value :=
  (v.member? "metadata").getD (.object [])

def versionOf? (v : Value) : Option Value :=
  (metadata v).member? "resourceVersion"

def nameOf (v : Value) : String :=
  match (metadata v).member? "name" with
  | some (.string name) => name
  | _ => ""

def withVersion (v : Value) (n : Nat) : Value :=
  v.withMember "metadata" ((metadata v).withMember "resourceVersion" (.string (toString n)))

-- Stores an object under a version not used before.
def store (s : Server) (path : String) (v : Value) : Value × Server :=
  -- Versions are never used again, also not after a deletion.
  let v := (withVersion v (s.writes + 1)).canonical
  (v, { objects := s.objects.insert path v, writes := s.writes + 1 })

def delete (s : Server) (path : String) : Server :=
  { s with objects := s.objects.erase path }

def json (status : Nat) (v : Value) : Reply :=
  ⟨⟨status⟩, bytesOf v.write⟩

def refusal (code : Nat) (reason message : String) : Reply :=
  json code (.object [
    ("kind", .string "Status"),
    ("apiVersion", .string "v1"),
    ("status", .string "Failure"),
    ("message", .string message),
    ("reason", .string reason),
    ("code", .number (.natural code))])

def notFound (path : String) : Reply :=
  refusal 404 ApiFailure.notFound s!"{path} not found"

def get (s : Server) (path : String) : Reply :=
  match s.objects.find? path with
  | some v => json 200 v
  | none => notFound path

-- A new object of the collection at `path`.
def create (s : Server) (path : String) (body : Value) : Reply × Server :=
  let path := path ++ "/" ++ nameOf body
  if (s.objects.find? path).isSome then
    (refusal 409 ApiFailure.alreadyExists s!"{path} already exists", s)
  else
    let (v, s) := s.store path body
    (json 201 v, s)

-- An object that names no version replaces any.
def isOutdated (stored body : Value) : Bool :=
  match versionOf? body with
  | none => false
  | some version => (versionOf? stored).map Value.write != some version.write

def replace (s : Server) (path : String) (body : Value) : Reply × Server :=
  match s.objects.find? path with
  | none => (notFound path, s)
  | some stored =>
    if isOutdated stored body then
      (refusal 409 ApiFailure.conflict "the object has been modified", s)
    else
      let (v, s) := s.store path body
      (json 200 v, s)

def handle (s : Server) (r : Request) : Reply × Server :=
  let body := r.body.getD (.object [])
  match r.method with
  | .get => (s.get r.path, s)
  | .post => s.create r.path body
  | .put => s.replace r.path body

end Server

end ArtifactSync.Kubernetes

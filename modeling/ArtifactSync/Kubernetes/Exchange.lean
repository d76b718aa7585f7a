import ArtifactSync.Http.StatusCode
import ArtifactSync.Interaction
import ArtifactSync.Json.Value
import ArtifactSync.Text.Utf8

namespace ArtifactSync.Kubernetes

inductive Method
  | get
  | post
  | put
  deriving DecidableEq, Repr

def Method.text : Method → String
  | get => "GET"
  | post => "POST"
  | put => "PUT"

structure Request where
  method : Method
  path : String
  body : Option Json.Value := none
  deriving Repr

-- Method and path.
def Request.line (r : Request) : String :=
  r.method.text ++ " " ++ r.path

structure Reply where
  status : Http.StatusCode
  body : Bytes
  deriving DecidableEq, Repr

-- What comes of a request: a reply, or none and what the client has to say to that.
abbrev Answer := Except String Reply

-- Programs that talk to the API.
abbrev Exchange := Interaction fun _ : Request => Answer

end ArtifactSync.Kubernetes

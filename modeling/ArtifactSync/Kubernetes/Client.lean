import ArtifactSync.Error
import ArtifactSync.Json.Reader
import ArtifactSync.Kubernetes.ApiFailure
import ArtifactSync.Kubernetes.Exchange

namespace ArtifactSync.Kubernetes

open Json (Reader Value)

namespace Client

inductive Fault
  | noName
  | pathCharacter
  | pathTooLong
  | unanswered (reason : String)
  | notText (f : Text.Utf8.Fault)
  | unreadable (e : Json.Error)
  | api (f : ApiFailure)
  deriving DecidableEq, Repr

def Fault.message : Fault → String
  | noName =>
    "Failed to build request: failed to validate request: A non-empty name is required"
  | pathCharacter =>
    "Failed to build request: failed to build request: invalid uri character"
  | pathTooLong => "Failed to build request: failed to build request: uri too long"
  | unanswered reason => reason
  | notText f => s!"UTF-8 Error: {f.message}"
  | unreadable e => s!"Error deserializing response: {e.message}"
  | api f => f.text

-- Characters a path may hold as they are; those outside ASCII are not looked at.
def isPathCharacter (c : Char) : Bool :=
  let n := c.toNat
  n = 0x21 || n = 0x22 || (0x24 ≤ n && n ≤ 0x3B) || n = 0x3D || (0x40 ≤ n && n ≤ 0x5F) ||
    0x61 ≤ n

def isQueryCharacter (c : Char) : Bool :=
  let n := c.toNat
  n = 0x21 || (0x24 ≤ n && n ≤ 0x3B) || n = 0x3D || 0x3F ≤ n

-- The path of an address, which ends where a query or a fragment begins.
def path (address : String) : Except Fault String :=
  let cs := address.toList
  let path := cs.takeWhile fun c => c ≠ '?' ∧ c ≠ '#'
  let query :=
    match cs.drop path.length with
    | '?' :: rest => rest.takeWhile (· ≠ '#')
    | _ => []
  if 0xFFFE < address.utf8ByteSize then .error .pathTooLong
  else if path.all isPathCharacter && query.all isQueryCharacter then .ok (String.ofList path)
  else .error .pathCharacter

-- The request for `address`, which always gets a query, if only an empty one.
def request (method : Method) (address : String) (body : Option Value) : Except Fault Request :=
  (path (address ++ "?")).map fun path => { method, path, body }

-- The request for one object of a collection, which must have a name.
def objectRequest (method : Method) (collection name : String) (body : Option Value) :
    Except Fault Request :=
  if name.isEmpty then .error .noName else request method (collection ++ "/" ++ name) body

def bodyText (r : Reply) : Except Fault String :=
  match Text.Utf8.decode r.body with
  | .ok cs => .ok (String.ofList cs)
  | .error f => .error (.notText f)

-- A status from 400 to 599 is a refusal whatever the body.
def understand {α : Type} (reader : Reader α) (r : Reply) : Except Fault α := do
  let text ← bodyText r
  if r.status.isError then
    match Json.read ApiFailure.record.reader r.body with
    | .ok f => throw (.api f)
    -- Something in between may have answered in a form of its own.
    | .error _ => throw (.api (.ofBody r.status text))
  else
    match Json.read reader r.body with
    | .ok a => return a
    | .error e => throw (.unreadable e)

-- Absence is told by the reason of a refusal, not by its code.
def absentAsNone {α : Type} : Except Fault α → Except Fault (Option α)
  | .ok a => .ok (some a)
  | .error (.api f) => if f.reason = ApiFailure.notFound then .ok none else .error (.api f)
  | .error f => .error f

def receive {α : Type} (reader : Reader α) : Answer → Except Fault α
  | .ok r => understand reader r
  | .error reason => .error (.unanswered reason)

-- Sends a request that could be made, and understands what comes of it.
def exchange {α : Type} (reader : Reader α) : Except Fault Request → Exchange (Except Fault α)
  | .ok r => return receive reader (← Interaction.question r)
  | .error f => return .error f

-- The object of that name, if there is one.
def get {α : Type} (reader : Reader α) (collection name : String) :
    Exchange (Except Fault (Option α)) :=
  absentAsNone <$> exchange reader (objectRequest .get collection name none)

def create {α : Type} (reader : Reader α) (collection : String) (body : Value) :
    Exchange (Except Fault α) :=
  exchange reader (request .post collection body)

def replace {α : Type} (reader : Reader α) (collection name : String) (body : Value) :
    Exchange (Except Fault α) :=
  exchange reader (objectRequest .put collection name body)

end Client

end ArtifactSync.Kubernetes

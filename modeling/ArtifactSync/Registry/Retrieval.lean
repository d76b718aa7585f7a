import ArtifactSync.Artifact.Sha256
import ArtifactSync.Registry.Envelope
import ArtifactSync.Registry.Exchange
import ArtifactSync.Registry.Manifest

namespace ArtifactSync.Registry

open Http (StatusCode)

namespace Retrieval

def failureText (body : Bytes) : Except Failure String :=
  match Text.Utf8.decode body with
  | .ok cs => .ok (String.ofList cs)
  | .error _ => .error .notText

-- Passes what came with the expected status. The address is told as it was written.
def check (address : String) (status : StatusCode) (body : Bytes) : Except Failure Unit :=
  if status = .ok then .ok ()
  else if status = .unauthorized then .error (.unauthorized address)
  else if status.isSuccess then .error (.unexpectedSuccess status)
  else
    -- The body counts from here on, so it has to be a text.
    match failureText body with
    | .error f => .error f
    | .ok text =>
      if status.isClientError then
        match Json.read Envelope.record.reader body with
        | .ok messages => .error (.refused address messages)
        | .error e => .error (.unreadableRefusal e)
      else .error (.server address status text)

def digestHeader : String := "docker-content-digest"

-- A digest that the registry gives is taken as it is; without one the text is hashed.
def digestOf (response : Http.Response) (body : Bytes) : Except Failure String :=
  match response.header? digestHeader with
  | none => .ok ("sha256:" ++ Sha256.hex body)
  | some value =>
    match Http.visibleText? value with
    | some text => .ok text
    | none => .error (.generic "failed to convert header to a str")

def bodyOf (response : Http.Response) : Except Failure Bytes :=
  if response.isCut then .error (.request .cutShort) else .ok response.body

-- The digest of a manifest that came with all of its text.
def digestOfWhole (address : String) (response : Http.Response) : Except Failure String := do
  let body ← bodyOf response
  check address response.status body
  digestOf response body

-- The digest of a manifest of which only the headers came.
def digestOfHead (address : String) (response : Http.Response) : Except Failure String := do
  check address response.status []
  digestOf response []

-- A manifest and its digest.
def manifestOf (address : String) (response : Http.Response) :
    Except Failure (Manifest × String) := do
  let body ← bodyOf response
  check address response.status body
  let digest ← digestOf response body
  return (← Manifest.ofText body, digest)

-- The bytes of a layer, or the failure that the status means.
def layerOf (a : Program.Arrival) : Except Failure Bytes :=
  if a.response.status.isError then
    .error (.request (.status a.response.status a.response.phrase a.url.text))
  else bodyOf a.response

-- A layer that claims another hash than its bytes have is refused. Of other claims nothing is
-- known.
def verify (claimed : String) (content : Bytes) : Except Error Unit :=
  let algorithm := "sha256:".toList
  if algorithm <+: claimed.toList then
    let hex := Sha256.hex content
    if (claimed.toList.drop algorithm.length).map Text.asciiLower = hex.toList then .ok ()
    else
      .error (.fetchFailed s!"layer {claimed}" s!"content digest mismatch, got sha256:{hex}")
  else .ok ()

end Retrieval

namespace Source

open Program
open Retrieval

variable (s : Source)

def manifestAddress (r : Reference) : String :=
  s!"{s.client.scheme r}://{r.host}/v2/{r.repository}/manifests/{r.selector}"

def blobAddress (r : Reference) (digest : String) : String :=
  s!"{s.client.scheme r}://{r.host}/v2/{r.repository}/blobs/{digest}"

-- Asks for the headers alone, and for all of the manifest if they do not tell the digest.
def manifestDigest (r : Reference) : Program (Except Failure String) := do
  let address := s.manifestAddress r
  match ← sendWithToken s r .head address with
  | .error f => return .error (.request f)
  | .ok head =>
    if (head.response.header? digestHeader).isSome then
      return digestOfHead address head.response
    match ← sendWithToken s r .get address with
    | .error f => return .error (.request f)
    | .ok whole => return digestOfWhole address whole.response

def manifest (r : Reference) : Program (Except Failure (Manifest × String)) := do
  let address := s.manifestAddress r
  match ← sendWithToken s r .get address with
  | .error f => return .error (.request f)
  | .ok a => return manifestOf address a.response

-- Why an address of a layer is none.
def addressFault (address : String) : String :=
  if (Url.splitScheme? (Url.clean address.toList)).isNone then "relative URL without a base"
  else "empty host"

-- Tries the other addresses of a layer in order, as long as what came is a refusal. They are not
-- told who asks.
def elsewhere (a : Arrival) : List String → Program (Except Failure Arrival)
  | [] => return .ok a
  | address :: rest => do
    if !a.response.status.isError then return .ok a
    match Url.ofText? address with
    | none => return .error (.layerAddress (addressFault address))
    | some url =>
      if url.scheme = "http" ∨ url.scheme = "https" then
        match ← follow s maxRedirects { url } with
        | .error f => return .error (.request f)
        | .ok a => elsewhere a rest
      else elsewhere a rest

def blob (r : Reference) (layer : Descriptor) : Program (Except Failure Bytes) := do
  match ← sendWithToken s r .get (s.blobAddress r layer.digest) with
  | .error f => return .error (.request f)
  | .ok a =>
    match ← s.elsewhere a (layer.urls.getD []) with
    | .error f => return .error f
    | .ok a => return layerOf a

end Source

end ArtifactSync.Registry

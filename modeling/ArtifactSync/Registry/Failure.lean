import ArtifactSync.Http.StatusCode
import ArtifactSync.Json.Reader
import ArtifactSync.Text.Quoted

namespace ArtifactSync.Registry

open Http (StatusCode)

-- Failures of a request as such, whatever it asked for.
inductive RequestFailure
  -- No connection, or one that was closed without an answer.
  | unanswered (url : String)
  -- The connection was closed in the middle of the answer.
  | cutShort
  | badAddress
  | tooManyRedirects (url : String)
  -- An answer that says by its status that it is none.
  | status (code : StatusCode) (phrase : String) (url : String)
  deriving DecidableEq, Repr

def RequestFailure.message : RequestFailure → String
  | unanswered url => s!"error sending request for url ({url})"
  | cutShort => "error decoding response body"
  | badAddress => "builder error"
  | tooManyRedirects url => s!"error following redirect for url ({url})"
  | status code phrase url =>
    let side := if code.isClientError then "client" else "server"
    s!"HTTP status {side} error ({code.number} {phrase}) for url ({url})"

inductive Failure
  | request (f : RequestFailure)
  | unauthorized (url : String)
  -- A success of a kind that is not expected.
  | unexpectedSuccess (code : StatusCode)
  -- A refusal with the messages the registry gives for it.
  | refused (url : String) (messages : List String)
  | unreadableRefusal (e : Json.Error)
  | server (url : String) (code : StatusCode) (body : String)
  | notText
  | manifestHead (e : Json.Error)
  | schemaVersion (version : Int)
  | mediaType (kind : String)
  | manifestShape (why : String)
  -- Another place to get a layer from that is no address.
  | layerAddress (why : String)
  | generic (why : String)
  deriving DecidableEq, Repr

namespace Failure

def apiError (message : String) : String :=
  "OCI API error: " ++ message

def message : Failure → String
  | request f => f.message
  | unauthorized url => s!"Not authorized: url {url}"
  | unexpectedSuccess code =>
    s!"OCI distribution spec violation: Expected HTTP Status {StatusCode.ok.text}, " ++
      s!"got {code.text} instead"
  | refused url messages =>
    let told := "\n".intercalate (messages.map apiError)
    s!"Registry error: url {url}, envelope: OCI API errors: [{told}]"
  | unreadableRefusal e => e.message
  | server url code body => s!"Server error: url {url}, code: {code.number}, message: {body}"
  | notText => "Manifest is not valid UTF-8"
  | manifestHead e => s!"Failed to parse manifest: {e.message}"
  | schemaVersion version => s!"Unsupported schema version: {version}"
  | mediaType kind => s!"Unsupported media type: {kind}"
  | manifestShape why => s!"Failed to parse manifest as Versioned object: {why}"
  | layerAddress why => s!"Error parsing Url {why}"
  | generic why => s!"Generic error: Some({Text.quoted why})"

-- Failed connections, throttling and trouble on the other side are worth another try.
def isTransient : Failure → Bool
  | request _ => true
  | server _ code _ => code.number = 429 || 500 ≤ code.number
  | _ => false

end Failure

end ArtifactSync.Registry

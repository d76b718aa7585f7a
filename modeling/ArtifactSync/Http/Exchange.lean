import ArtifactSync.Http.StatusCode
import ArtifactSync.Url.Basic

namespace ArtifactSync.Http

inductive Method
  | get
  | head
  deriving DecidableEq, Repr

def Method.text : Method → String
  | get => "GET"
  | head => "HEAD"

structure Request where
  method : Method := .get
  url : Url
  authorization : Option String := none
  deriving DecidableEq, Repr

structure Response where
  status : StatusCode
  -- The words that came with the status.
  phrase : String
  -- Names are in lower case.
  headers : List (String × Bytes) := []
  body : Bytes := []
  -- The connection was closed before all of the body had come.
  isCut : Bool := false
  deriving DecidableEq, Repr

inductive Reply
  | response (r : Response)
  -- There was no connection, or it was closed without an answer.
  | nothing
  deriving DecidableEq, Repr

namespace Response

-- The first header of that name.
def header? (r : Response) (name : String) : Option Bytes :=
  r.headers.lookup name

end Response

def isVisible (b : UInt8) : Bool :=
  b = 0x09 || (0x20 ≤ b && b < 0x7F)

-- The text of a header, which is ASCII and has no controls but tabs.
def visibleText? (value : Bytes) : Option String :=
  if value.all isVisible then some (String.ofList (value.map fun b => Char.ofNat b.toNat)) else none

-- Whether a text can be sent in a header.
def isHeaderText (text : String) : Bool :=
  text.toList.all fun c => c = '\t' || (0x20 ≤ c.toNat && c.toNat ≠ 0x7F)

namespace Request

-- Same host and same port. What is meant for one end is not told to another.
def isSameEnd (u v : Url) : Bool :=
  u.host? = v.host? && port? u = port? v
where
  port? (u : Url) : Option Nat :=
    u.port? <|> Url.defaultPort? u.scheme

-- The request to make instead, if the response says where to look.
def redirected? (r : Request) (response : Response) : Option Request := do
  if !response.status.isRedirection then none
  let location ← response.header? "location"
  let cs ← (Text.Utf8.decode location).toOption
  let url ← Url.join? r.url (String.ofList cs)
  return { r with url, authorization := if isSameEnd r.url url then r.authorization else none }

end Request

end ArtifactSync.Http

import ArtifactSync.Duration
import ArtifactSync.Http.Exchange
import ArtifactSync.Interaction
import ArtifactSync.Registry.Client
import ArtifactSync.Registry.Failure
import ArtifactSync.Registry.Token
import ArtifactSync.Staging.Area

-- What talking to a registry asks of the world. Whatever has to be waited for may come too late,
-- and then the whole exchange is over.
namespace ArtifactSync.Registry

-- A connection to one repository, good for a limited time.
structure Source where
  client : Client
  deadline : Instant
  deriving DecidableEq, Repr

inductive Question
  | send (r : Http.Request) (deadline : Instant)
  | pause (d : Duration) (deadline : Instant)
  -- The time of day, in seconds.
  | wallClock
  -- To make a new directory under the given one, or where such directories are usually made.
  | makeDirectory (root : Option String)
  -- To write a file of the staging area, after so many others.
  | storeFile (earlier : Nat) (p : Staging.Path) (content : Bytes) (deadline : Instant)
  -- To read the files of the staging area back.
  | readBack (deadline : Instant)

-- What is waited for, or nothing if the deadline comes first.
abbrev InTime (α : Type) := Option α

abbrev Answer : Question → Type
  | .send .. => InTime Http.Reply
  | .pause .. => InTime Unit
  | .wallClock => Nat
  | .makeDirectory _ => Except Staging.Area.Unmade String
  | .storeFile .. => InTime Staging.Course
  | .readBack _ => InTime Staging.Reading

abbrev Exchange := Interaction Answer

-- Exchanges that keep a token from one request to the next, and end when the deadline comes.
abbrev Program := OptionT (StateT (Option KeptToken) Exchange)

namespace Program

def ask (q : Question) : Program (Answer q) :=
  OptionT.lift (StateT.lift (Interaction.question q))

def askInTime {α : Type} (q : Exchange (InTime α)) : Program α :=
  OptionT.mk (StateT.lift q)

def wallClock : Program Nat :=
  ask .wallClock

def makeDirectory (root : Option String) : Program (Except Staging.Area.Unmade String) :=
  ask (.makeDirectory root)

variable (s : Source)

def pause (d : Duration) : Program Unit :=
  askInTime (Interaction.question (Question.pause d s.deadline))

def sendOnce (r : Http.Request) : Program Http.Reply :=
  askInTime (Interaction.question (Question.send r s.deadline))

def storeFile (earlier : Nat) (p : Staging.Path) (content : Bytes) : Program Staging.Course :=
  askInTime (Interaction.question (Question.storeFile earlier p content s.deadline))

def readBack : Program Staging.Reading :=
  askInTime (Interaction.question (Question.readBack s.deadline))

-- A response and the address it came from.
structure Arrival where
  response : Http.Response
  url : Url
  deriving DecidableEq, Repr

def maxRedirects : Nat := 10

-- Sends a request, and again wherever the responses say.
def follow : (budget : Nat) → Http.Request → Program (Except RequestFailure Arrival)
  | budget, r => do
    match ← sendOnce s r with
    | .nothing => return .error (.unanswered r.url.text)
    | .response response =>
      match r.redirected? response with
      | none => return .ok ⟨response, r.url⟩
      | some elsewhere =>
        match budget with
        | 0 => return .error (.tooManyRedirects r.url.text)
        | budget + 1 => follow budget elsewhere

-- Sends a request to an address given as text.
def send (method : Http.Method) (address : String) (authorization : Option String) :
    Program (Except RequestFailure Arrival) := do
  match Url.ofText? address with
  | some url => follow s maxRedirects { method, url, authorization }
  | none => return .error .badAddress

-- What is asked for when the header that says so came.
def bearerChallenge? (header : Bytes) : Option (String × Option String) := do
  let text ← Http.visibleText? header
  (Http.Challenge.ofText text).findSome? fun c =>
    if Http.Challenge.sameLetters c.scheme "bearer" then
      (c.parameter? "realm").map (·, c.parameter? "service")
    else none

-- The query that names what a token is wanted for.
def scopeQuery (repository : String) (service : Option String) : String :=
  let scope := "scope=" ++ Url.formEncode (s!"repository:{repository}:pull")
  match service with
  | some name => scope ++ "&service=" ++ Url.formEncode name
  | none => scope

def withQuery (u : Url) (query : String) : Url :=
  match u.query? with
  | none | some "" => { u with query? := some query }
  | some given => { u with query? := some (given ++ "&" ++ query) }

def loginToken? : Login → Option Token
  | .anonymous => none
  | .basic user password => some (.basic user password)

-- Asks at the realm for a token. Whatever goes wrong, there is none.
def requestBearer (repository realm : String) (service : Option String) :
    Program (Option Token) := do
  match Url.ofText? realm with
  | none => return none
  | some url =>
    let url := withQuery url (scopeQuery repository service)
    let authorization := (loginToken? s.client.login).map Token.header
    match ← follow s maxRedirects { url, authorization } with
    | .error _ => return none
    | .ok arrival =>
      if arrival.response.status = .ok && !arrival.response.isCut then
        return Token.ofReply? arrival.response.body
      else return none

-- Finds out how the registry wants to be told who asks, and gets a token by it.
def requestToken (r : Reference) : Program (Option Token) := do
  match ← send s .get s!"{s.client.scheme r}://{r.host}/v2/" none with
  | .error _ => return none
  | .ok arrival =>
    match arrival.response.header? "www-authenticate" with
    | none => return none
    | some header =>
      match bearerChallenge? header with
      | none => return loginToken? s.client.login
      | some (realm, service) => requestBearer s r.repository realm service

-- The token kept for requests to come, if it is still good.
def keptToken : Program (Option Token) := do
  match ← get with
  | none => return none
  | some kept =>
    match kept.lastSecond? with
    | none => return some kept.token
    | some _ => return if kept.isGood (← wallClock) then some kept.token else none

def token (r : Reference) : Program (Option Token) := do
  if let some token ← keptToken then return some token
  match ← requestToken s r with
  | none => return none
  | some token =>
    -- The clock is read only where the time is bounded.
    match token.lifetime with
    | .forever => set (KeptToken.keep? token 0)
    | .once => pure ()
    | _ => set (KeptToken.keep? token (← wallClock))
    return some token

-- Sends a request with what the registry wants to be told.
def sendWithToken (r : Reference) (method : Http.Method) (address : String) :
    Program (Except RequestFailure Arrival) := do
  send s method address ((← token s r).map Token.header)

end Program

end ArtifactSync.Registry

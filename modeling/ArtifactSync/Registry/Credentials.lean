import ArtifactSync.Dict
import ArtifactSync.Json.Record
import ArtifactSync.Text.Base64
import ArtifactSync.Text.Blank
import ArtifactSync.Text.Split
import ArtifactSync.Url.Basic

namespace ArtifactSync.Registry

open Json (Field Reader Record)

-- Who asks a registry.
inductive Login
  | anonymous
  | basic (user password : String)
  deriving DecidableEq, Repr

-- One entry of a config, as written.
structure AuthEntry where
  auth : Option String := none
  username : Option String := none
  password : Option String := none
  deriving DecidableEq, Repr

namespace AuthEntry

structure Draft where
  auth : Option (Option String) := none
  username : Option (Option String) := none
  password : Option (Option String) := none

def record : Record Draft AuthEntry where
  name := "DockerAuthEntry"
  draft := {}
  fields := [
    ⟨"auth", true, (·.auth.isSome), fun d =>
      return { d with auth := some (← Reader.optional Reader.string) }⟩,
    ⟨"username", true, (·.username.isSome), fun d =>
      return { d with username := some (← Reader.optional Reader.string) }⟩,
    ⟨"password", true, (·.password.isSome), fun d =>
      return { d with password := some (← Reader.optional Reader.string) }⟩]
  build d := .ok ⟨d.auth.join, d.username.join, d.password.join⟩

inductive Fault
  | incomplete
  | base64 (f : Text.Base64.Fault)
  | noText (f : Text.Utf8.Fault)
  | noColon
  deriving DecidableEq, Repr

def Fault.message (host : String) : Fault → String
  | incomplete => s!"Credential entry for {host} has neither username/password nor auth"
  | base64 f => s!"Credential entry for {host} has invalid base64 auth: {f.message}"
  | noText f => s!"Credential entry for {host} is not UTF-8: {f.message}"
  | noColon => s!"Credential entry for {host} is not of the form user:password"

def decodeAuth (encoded : String) : Except Fault (String × String) :=
  match Text.Base64.decode (bytesOf (Text.trim encoded)) with
  | .error f => .error (.base64 f)
  | .ok bytes =>
    match Text.Utf8.decode bytes with
    | .error f => .error (.noText f)
    | .ok cs =>
      match Text.cut? ':' cs with
      | some (user, password) => .ok (String.ofList user, String.ofList password)
      | none => .error .noColon

-- User and password: given apart, or else joined by a colon and in base 64.
def basic (e : AuthEntry) : Except Fault (String × String) :=
  match e.username, e.password with
  | some user, some password => .ok (user, password)
  | _, _ =>
    match e.auth.filter (!·.isEmpty) with
    | some encoded => decodeAuth encoded
    | none => .error .incomplete

end AuthEntry

-- The names one big registry is known by, and the one they all stand for.
def canonicalHost (host : String) : String :=
  if host = "index.docker.io" ∨ host = "registry-1.docker.io" then "docker.io" else host

-- Reduces a key to the host it means. A key with a scheme is read as an address, any other ends at
-- its first slash.
def normalizeHost (key : String) : String :=
  let cs := Text.trimChars key.toList
  let host :=
    if "://".toList <:+: cs then
      ((Url.readFrom? none cs).bind (·.hostAndPort?)).getD (String.ofList cs)
    else String.ofList (cs.takeWhile (· ≠ '/'))
  canonicalHost (Text.lower host)

-- User and password by normalized host.
structure CredentialStore where
  entries : Dict (String × String)
  deriving DecidableEq, Repr

namespace CredentialStore

inductive Fault
  | json (e : Json.Error)
  | entry (host : String) (f : AuthEntry.Fault)
  deriving DecidableEq, Repr

def Fault.message : Fault → String
  | json e => s!"Invalid Docker config JSON: {e.message}"
  | entry host f => f.message host

def empty : CredentialStore := ⟨∅⟩

def size (s : CredentialStore) : Nat :=
  s.entries.size

-- Adds one entry under the host that its key means.
def add (s : CredentialStore) (key : String) (e : AuthEntry) : Except Fault CredentialStore :=
  let host := normalizeHost key
  match e.basic with
  | .ok basic => .ok ⟨s.entries.insert host basic⟩
  | .error f => .error (.entry host f)

-- Every entry must be usable. They are taken in the order given.
def ofEntries (es : List (String × AuthEntry)) : Except Fault CredentialStore :=
  es.foldlM (fun s e => s.add e.1 e.2) empty

structure Draft where
  auths : Option (Dict AuthEntry) := none

def record : Record Draft (Dict AuthEntry) where
  name := "DockerConfig"
  draft := {}
  fields := [⟨"auths", true, (·.auths.isSome), fun d =>
    return { d with auths := some (← Reader.dict AuthEntry.record.reader) }⟩]
  build d := .ok (d.auths.getD ∅)

def ofDockerConfig (text : Bytes) : Except Fault CredentialStore :=
  match Json.read record.reader text with
  | .error e => .error (.json e)
  | .ok auths => ofEntries auths.entries

-- The login for a registry, anonymous where the config knows none.
def login (s : CredentialStore) (registry : String) : Login :=
  match s.entries.find? (normalizeHost registry) with
  | some (user, password) => .basic user password
  | none => .anonymous

end CredentialStore

end ArtifactSync.Registry

import ArtifactSync.Http.Challenge
import ArtifactSync.Http.Exchange
import ArtifactSync.Json.Value
import ArtifactSync.Registry.Client
import ArtifactSync.Text.Split

namespace ArtifactSync.Registry

open Json (Value)

inductive Token
  | basic (user password : String)
  | bearer (text : String)
  deriving DecidableEq, Repr

namespace Token

-- The text of an Authorization header.
def header : Token → String
  | basic user password => "Basic " ++ Text.Base64.text (bytesOf (user ++ ":" ++ password))
  | bearer text => "Bearer " ++ text

-- A text under this name, which may stand in an object only once.
def soleText? (name : String) : Value → Option String
  | .object members =>
    match members.filter (·.1 = name) with
    | [(_, .string text)] => some text
    | _ => none
  | _ => none

-- The token in a reply to a request for one, under either of two names. A text that cannot be sent
-- in a header is none.
def ofReply? (body : Bytes) : Option Token := do
  let v ← (Json.read Value.reader body).toOption
  let text ← soleText? "token" v <|> soleText? "access_token" v
  if Http.isHeaderText text then some (bearer text) else none

inductive Lifetime
  | forever
  -- For so many seconds from now.
  | seconds (n : Nat)
  -- To that second of the wall clock.
  | upTo (time : Nat)
  -- Not kept at all.
  | once
  deriving DecidableEq, Repr

-- Base 64 with the two signs that addresses allow, and without padding.
def decodeSegment? (cs : List Char) : Option Bytes := do
  if cs.any ['+', '/', '='].contains then none
  let standard := cs.map fun c => if c = '-' then '+' else if c = '_' then '/' else c
  let padding := List.replicate ((4 - cs.length % 4) % 4) '='
  (Text.Base64.decode (Text.Utf8.encode (standard ++ padding))).toOption

def readSegment? (cs : List Char) : Option Value := do
  (Json.read Value.reader (← decodeSegment? cs)).toOption

def algorithms : List String := [
  "HS256", "HS384", "HS512", "RS256", "RS384", "RS512", "ES256", "ES384", "ES512", "PS256",
  "PS384", "PS512", "none"]

-- The first segment must name a known way of signing.
def isHead (v : Value) : Bool :=
  match v.member? "alg" with
  | some (.string name) => algorithms.contains name
  | _ => false

-- The time that the claims set for a token, if they set any.
def expiry (claims : Value) : Lifetime :=
  match claims.member? "exp" with
  | some (.number (.natural n)) => .upTo n
  | _ => .forever

-- Nothing is known of a token without dots, so it is kept for a minute; one of three segments says
-- itself how long; anything else is not kept.
def bearerLifetime (text : String) : Lifetime :=
  match Text.splitOn '.' text.toList with
  | [_] => .seconds 60
  | [head, claims, _] =>
    match readSegment? head, readSegment? claims with
    | some head, some claims => if isHead head then expiry claims else .once
    | _, _ => .once
  | _ => .once

def lifetime : Token → Lifetime
  | basic .. => .forever
  | bearer text => bearerLifetime text

end Token

-- The token kept for a repository, with the last second of its time if that is bounded.
structure KeptToken where
  token : Token
  lastSecond? : Option Nat
  deriving DecidableEq, Repr

namespace KeptToken

def isGood (k : KeptToken) (now : Nat) : Bool :=
  k.lastSecond?.all (now ≤ ·)

def keep? (token : Token) (now : Nat) : Option KeptToken :=
  match token.lifetime with
  | .forever => some ⟨token, none⟩
  | .seconds n => some ⟨token, some (now + n)⟩
  | .upTo time => some ⟨token, some time⟩
  | .once => none

end KeptToken

end ArtifactSync.Registry

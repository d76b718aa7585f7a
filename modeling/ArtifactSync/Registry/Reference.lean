import ArtifactSync.Text.Hexadecimal
import ArtifactSync.Text.Split
import ArtifactSync.Text.Word

namespace ArtifactSync.Registry

def isLowerOrDigit (c : Char) : Bool :=
  ('a' ≤ c && c ≤ 'z') || ('0' ≤ c && c ≤ '9')

def isAlphanumeric (c : Char) : Bool :=
  isLowerOrDigit c || ('A' ≤ c && c ≤ 'Z')

def isLetter (c : Char) : Bool :=
  ('a' ≤ c && c ≤ 'z') || ('A' ≤ c && c ≤ 'Z')

def isDecimal (c : Char) : Bool :=
  '0' ≤ c && c ≤ '9'

def isHexadecimal (c : Char) : Bool :=
  (Text.Hexadecimal.value? c).isSome

namespace Reference

-- What may follow within a path component, by what was read last.
inductive Last
  | separator
  | word
  | underscore
  | hyphen

-- Letters and digits, separated by a dot, one or two underscores, or hyphens.
def isComponentFrom : Last → List Char → Bool
  | .word, [] => true
  | _, [] => false
  | last, c :: rest =>
    if isLowerOrDigit c then isComponentFrom .word rest
    else
      match last with
      | .word =>
        if c = '.' then isComponentFrom .separator rest
        else if c = '_' then isComponentFrom .underscore rest
        else c = '-' && isComponentFrom .hyphen rest
      | .underscore => c = '_' && isComponentFrom .separator rest
      | .hyphen => c = '-' && isComponentFrom .hyphen rest
      | .separator => false

def isComponent (cs : List Char) : Bool :=
  isComponentFrom .separator cs

def isPath (components : List (List Char)) : Bool :=
  !components.isEmpty && components.all isComponent

-- Letters, digits and inner hyphens.
def isDomainLabel (cs : List Char) : Bool :=
  cs.all (fun c => isAlphanumeric c || c = '-') && cs.head?.any isAlphanumeric &&
    cs.getLast?.any isAlphanumeric

-- Labels between dots, with a port or not.
def isDomain (cs : List Char) : Bool :=
  let name := cs.takeWhile (· ≠ ':')
  (Text.splitOn '.' name).all isDomainLabel &&
    match cs.drop name.length with
    | [] => true
    | _ :: port => !port.isEmpty && port.all isDecimal

def isName (cs : List Char) : Bool :=
  match Text.splitOn '/' cs with
  | [] => false
  | first :: rest => isPath (first :: rest) || (isDomain first && isPath rest)

def isTag : List Char → Bool
  | [] => false
  | c :: rest =>
    Text.isWord c && rest.length ≤ 127 && rest.all fun c => Text.isWord c || c = '.' || c = '-'

-- The parts of an algorithm's name start with a letter.
def isAlgorithmFrom (start : Bool) : List Char → Bool
  | [] => !start
  | c :: rest =>
    if start then isLetter c && isAlgorithmFrom false rest
    else if isAlphanumeric c then isAlgorithmFrom false rest
    else (c = '-' || c = '_' || c = '+' || c = '.') && isAlgorithmFrom true rest

def isDigest (cs : List Char) : Bool :=
  let algorithm := cs.takeWhile (· ≠ ':')
  isAlgorithmFrom true algorithm &&
    match cs.drop algorithm.length with
    | [] => false
    | _ :: hex => 32 ≤ hex.length && hex.all isHexadecimal

end Reference

structure Reference where
  registry : String
  repository : String
  tag? : Option String
  digest? : Option String
  deriving DecidableEq, Repr

namespace Reference

inductive Fault
  | empty
  | format
  | nameTooLong
  | digestLength
  | digestAlgorithm
  deriving DecidableEq, Repr

def Fault.message : Fault → String
  | empty => "repository name must have at least one component"
  | format => "invalid reference format"
  | nameTooLong => "repository name must not be more than 255 characters"
  | digestLength => "invalid checksum digest length"
  | digestAlgorithm => "unsupported digest algorithm"

def hub : String := "docker.io"

-- The host that answers for the hub, and an old name of it.
def hubHost : String := "index.docker.io"

def hubOwner : String := "library"

def defaultTag : String := "latest"

-- The parts of the text, if it has the form of a reference.
structure Parts where
  name : List Char
  tag? : Option (List Char)
  digest? : Option (List Char)
  deriving DecidableEq, Repr

def Parts.ofText? (cs : List Char) : Option Parts :=
  let front := cs.takeWhile (· ≠ '@')
  let digest? := (cs.drop front.length).tail?
  -- A colon before the last slash belongs to a port, and one behind it begins the tag.
  let segment := (front.reverse.takeWhile (· ≠ '/')).reverse
  let plain := segment.takeWhile (· ≠ ':')
  let tag? := (segment.drop plain.length).tail?
  let name := front.take (front.length - (segment.length - plain.length))
  if isName name && tag?.all isTag && digest?.all isDigest then some ⟨name, tag?, digest?⟩ else none

-- A left part is a registry if it has a dot or a port, or is this machine.
def isRegistry (cs : List Char) : Bool :=
  cs.contains '.' || cs.contains ':' || cs = "localhost".toList

-- Splits a name into registry and repository.
def splitName (name : List Char) : String × String :=
  let left := name.takeWhile (· ≠ '/')
  let (registry, repository) :=
    if left.length < name.length && isRegistry left then
      (String.ofList left, String.ofList (name.drop (left.length + 1)))
    else (hub, String.ofList name)
  let registry := if registry = hubHost then hub else registry
  if registry = hub && !repository.toList.contains '/' then
    (registry, hubOwner ++ "/" ++ repository)
  else (registry, repository)

def hexLength? (algorithm : String) : Option Nat :=
  match algorithm with
  | "sha256" => some 64
  | "sha384" => some 96
  | "sha512" => some 128
  | _ => none

-- The algorithm is taken to be six characters long, whatever stands there.
def checkDigest (digest : List Char) : Except Fault Unit :=
  match hexLength? (String.ofList (digest.take 6)) with
  | none => .error .digestAlgorithm
  | some n => if (digest.drop 7).length = n then .ok () else .error .digestLength

def ofText (text : String) : Except Fault Reference :=
  if text.isEmpty then .error .empty
  else
    match Parts.ofText? text.toList with
    | none => .error .format
    | some parts => do
      let (registry, repository) := splitName parts.name
      let tag? :=
        if parts.tag?.isNone && parts.digest?.isNone then some defaultTag
        else parts.tag?.map String.ofList
      -- The owner that the hub adds counts as well.
      if 255 < repository.utf8ByteSize then throw .nameTooLong
      parts.digest?.forM checkDigest
      return ⟨registry, repository, tag?, parts.digest?.map String.ofList⟩

def text (r : Reference) : String :=
  let tag :=
    match r.tag? with
    | some t => ":" ++ t
    | none => ""
  let digest :=
    match r.digest? with
    | some d => "@" ++ d
    | none => ""
  r.registry ++ "/" ++ r.repository ++ tag ++ digest

-- The host to ask.
def host (r : Reference) : String :=
  if r.registry = hub then hubHost else r.registry

-- What a manifest is asked for by: the digest if there is one.
def selector (r : Reference) : String :=
  (r.digest? <|> r.tag?).getD defaultTag

def withDigest (r : Reference) (digest : String) : Reference :=
  { r with tag? := none, digest? := some digest }

end Reference

end ArtifactSync.Registry

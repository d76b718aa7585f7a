import ArtifactSync.Url.Host

namespace ArtifactSync

open Url (Host percentEncode)

inductive Url.Path
  | opaqueText (text : String)
  | segments (parts : List String)
  deriving DecidableEq, Repr

structure Url where
  scheme : String
  username : String := ""
  password : String := ""
  host? : Option Host := none
  port? : Option Nat := none
  path : Url.Path := .segments []
  query? : Option String := none
  fragment? : Option String := none
  deriving DecidableEq, Repr

namespace Url

def defaultPort? (scheme : String) : Option Nat :=
  match scheme with
  | "http" | "ws" => some 80
  | "https" | "wss" => some 443
  | "ftp" => some 21
  | _ => none

def isFile (scheme : String) : Bool :=
  scheme == "file"

def isSpecial (scheme : String) : Bool :=
  isFile scheme || (defaultPort? scheme).isSome

def isSlash (special : Bool) (c : Char) : Bool :=
  c = '/' || (special && c = '\\')

def endsAuthority (special : Bool) (c : Char) : Bool :=
  isSlash special c || c = '?' || c = '#'

def Path.text : Path → String
  | opaqueText t => t
  | segments parts => String.join (parts.map ("/" ++ ·))

def authorityText (u : Url) (host : Host) : String :=
  let credentials :=
    if u.username.isEmpty && u.password.isEmpty then ""
    else u.username ++ (if u.password.isEmpty then "" else ":" ++ u.password) ++ "@"
  let port :=
    match u.port? with
    | some p => s!":{p}"
    | none => ""
  "//" ++ credentials ++ host.text ++ port

def text (u : Url) : String :=
  let front :=
    match u.host?, u.path with
    | some host, _ => u.authorityText host
    | none, .segments ("" :: _ :: _) => if isFile u.scheme then "//" else "/."
    | none, _ => if isFile u.scheme then "//" else ""
  let query :=
    match u.query? with
    | some q => "?" ++ q
    | none => ""
  let fragment :=
    match u.fragment? with
    | some f => "#" ++ f
    | none => ""
  u.scheme ++ ":" ++ front ++ u.path.text ++ query ++ fragment

-- The host, with the port unless it is the scheme's own.
def hostAndPort? (u : Url) : Option String := do
  let host ← u.host?
  if host = .domain "" then none
  else
    match u.port? with
    | some p => return s!"{host.text}:{p}"
    | none => return host.text

-- Without controls and blanks around it, and without tabs and line ends anywhere.
def clean (cs : List Char) : List Char :=
  let outer (c : Char) : Bool := c.toNat ≤ 0x20
  let core := ((cs.dropWhile outer).reverse.dropWhile outer).reverse
  core.filter fun c => c ≠ '\t' && c ≠ '\n' && c ≠ '\r'

def isSchemeChar (c : Char) : Bool :=
  c.isAlphanum || c = '+' || c = '-' || c = '.'

def splitScheme? (cs : List Char) : Option (String × List Char) := do
  let name := cs.takeWhile isSchemeChar
  match cs.head?, cs.drop name.length with
  | some c, ':' :: rest =>
    if c.isAlpha then return (String.ofList (name.map Text.asciiLower), rest) else none
  | _, _ => none

def readPort? (scheme : String) (cs : List Char) : Option (Option Nat × List Char) := do
  let digits := cs.takeWhile Char.isDigit
  let rest := cs.drop digits.length
  let port := digits.foldl (fun n c => n * 10 + (c.toNat - '0'.toNat)) 0
  let ended := rest.head?.all (endsAuthority true)
  if !ended || 65536 ≤ port then none
  else if digits.isEmpty || defaultPort? scheme = some port then return (none, rest)
  else return (some port, rest)

-- Cuts the host off: it ends at the first colon outside brackets, or with the authority.
def spanHost (special : Bool) : Bool → List Char → List Char × List Char
  | _, [] => ([], [])
  | inside, c :: rest =>
    if (c = ':' && !inside) || endsAuthority special c then ([], c :: rest)
    else
      let inside := if c = '[' then true else if c = ']' then false else inside
      let (host, after) := spanHost special inside rest
      (c :: host, after)

def readHostAndPort? (scheme : String) (cs : List Char) :
    Option (Host × Option Nat × List Char) := do
  let special := isSpecial scheme
  let (name, rest) := spanHost special false cs
  if name.isEmpty && (special || rest.head? = some ':') then none
  let host ← if special then Host.ofText? name else Host.ofOpaqueText? name
  match rest with
  | ':' :: rest => do
    let (port, rest) ← readPort? scheme rest
    return (host, port, rest)
  | rest => return (host, none, rest)

-- What stands before the last `@` of the authority, and what follows it.
def splitUserinfo (special : Bool) (cs : List Char) : Option (List Char) × List Char :=
  let authority := cs.takeWhile (!endsAuthority special ·)
  let behind := (authority.reverse.takeWhile (· ≠ '@')).reverse
  if behind.length = authority.length then (none, cs)
  else
    let before := authority.take (authority.length - behind.length - 1)
    (some before, cs.drop (before.length + 1))

def isSingleDot (s : List Char) : Bool :=
  s = ['.'] || s.map Text.asciiLower = ['%', '2', 'e']

def isDoubleDot (s : List Char) : Bool :=
  let s := s.map Text.asciiLower
  ["..", ".%2e", "%2e.", "%2e%2e"].any (·.toList = s)

-- Appends the segments of a path, following dots; the last segment is what stands behind the last
-- slash.
def addSegments (special : Bool) (front : List String) (segment : List Char) :
    List Char → List String
  | [] => finish front segment.reverse true
  | c :: rest =>
    if isSlash special c then addSegments special (finish front segment.reverse false) [] rest
    else addSegments special front (c :: segment) rest
where
  finish (front : List String) (segment : List Char) (last : Bool) : List String :=
    -- Behind a dot segment that ends the path there is an empty one: `a/..` is `a/../`.
    if isDoubleDot segment then front.dropLast ++ (if last then [""] else [])
    else if isSingleDot segment then front ++ (if last then [""] else [])
    else front ++ [String.ofList (percentEncode isPathSet segment)]

def endsPath (c : Char) : Bool :=
  c = '?' || c = '#'

-- Reads what follows the path.
def withTail (u : Url) (cs : List Char) : Url :=
  match cs with
  | '?' :: rest =>
    let query := rest.takeWhile (· ≠ '#')
    let set := if isSpecial u.scheme then isSpecialQuerySet else isQuerySet
    withFragment { u with query? := some (String.ofList (percentEncode set query)) }
      (rest.drop query.length)
  | cs => withFragment u cs
where
  withFragment (u : Url) : List Char → Url
    | '#' :: rest => { u with fragment? := some (String.ofList (percentEncode isFragmentSet rest)) }
    | _ => u

-- Reads a path that continues `front`, and what follows it.
def withPath (u : Url) (front : List String) (cs : List Char) : Url :=
  let path := cs.takeWhile (!endsPath ·)
  withTail { u with path := .segments (addSegments (isSpecial u.scheme) front [] path) }
    (cs.drop path.length)

-- Reads a path that starts at the root; without a slash there is none, but a special scheme always
-- has one.
def withRootedPath (u : Url) (cs : List Char) : Url :=
  match cs with
  | c :: rest =>
    if isSlash (isSpecial u.scheme) c then withPath u [] rest
    else if isSpecial u.scheme then withPath u [] cs
    else withTail { u with path := .segments [] } cs
  | [] => if isSpecial u.scheme then { u with path := .segments [""] } else u

def readAuthority? (scheme : String) (cs : List Char) : Option Url := do
  let (userinfo, rest) := splitUserinfo (isSpecial scheme) cs
  let (host, port, rest) ← readHostAndPort? scheme rest
  let u : Url := { scheme, host? := some host, port? := port }
  match userinfo with
  | none => return withRootedPath u rest
  | some info =>
    -- Credentials need a host to be sent to.
    if host = .domain "" then none
    let name := info.takeWhile (· ≠ ':')
    let encode (cs : List Char) := String.ofList (percentEncode isUserinfoSet cs)
    return withRootedPath
      { u with username := encode name, password := encode (info.drop (name.length + 1)) } rest

def isDriveLetter (cs : List Char) : Bool :=
  match cs with
  | [c, d] => c.isAlpha && (d = ':' || d = '|')
  | _ => false

def readFile? (cs : List Char) : Option Url := do
  let u : Url := { scheme := "file" }
  let slashes := (cs.take 2).takeWhile (isSlash true)
  let rest := cs.drop slashes.length
  let name := rest.takeWhile (!endsAuthority true ·)
  if slashes.length = 2 && !isDriveLetter name && !name.isEmpty then
    let host ← Host.ofText? name
    -- A file on this machine has no host.
    let host? := if host = .domain "localhost" then none else some host
    return withRootedPath { u with host? } (rest.drop name.length)
  else return withRootedPath u rest

def readRelative? (base : Url) (cs : List Char) : Option Url :=
  let special := isSpecial base.scheme
  let here := { base with fragment? := none }
  match base.path, cs with
  | .opaqueText _, '#' :: _ => some (withTail here cs)
  | .opaqueText _, _ => none
  | .segments _, [] => some here
  | .segments _, '#' :: _ => some (withTail here cs)
  | .segments _, '?' :: _ => some (withTail here cs)
  | .segments parts, c :: rest =>
    let here := { here with query? := none }
    if isSlash special c then
      match rest with
      | d :: more =>
        if isSlash special d then
          readAuthority? base.scheme (if special then more.dropWhile (isSlash true) else more)
        else some (withPath here [] rest)
      | [] => some (withPath here [] rest)
    else some (withPath here parts.dropLast cs)

-- Reads an address; one without a scheme is relative to `base?`.
def readFrom? (base? : Option Url) (input : List Char) : Option Url :=
  let cs := clean input
  match splitScheme? cs with
  | none => base?.bind (readRelative? · cs)
  | some (scheme, rest) =>
    if isFile scheme then readFile? rest
    else if isSpecial scheme then
      let slashes := rest.takeWhile (isSlash true)
      match base? with
      | some base =>
        -- `http:path` continues an address of the same scheme.
        if slashes.length < 2 && base.scheme = scheme then readRelative? base rest
        else readAuthority? scheme (rest.drop slashes.length)
      | none => readAuthority? scheme (rest.drop slashes.length)
    else
      match rest with
      | '/' :: '/' :: rest => readAuthority? scheme rest
      | '/' :: rest => some (withPath { scheme } [] rest)
      | rest =>
        let path := rest.takeWhile (!endsPath ·)
        some (withTail
          { scheme, path := .opaqueText (String.ofList (percentEncode isControl path)) }
          (rest.drop path.length))

def ofText? (input : String) : Option Url :=
  readFrom? none input.toList

def join? (base : Url) (input : String) : Option Url :=
  readFrom? (some base) input.toList

end Url

end ArtifactSync

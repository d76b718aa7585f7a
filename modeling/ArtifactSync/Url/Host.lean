import ArtifactSync.Url.Idna.Domain
import ArtifactSync.Url.Ipv6
import ArtifactSync.Url.Percent

namespace ArtifactSync.Url

inductive Host
  | domain (name : String)
  | ipv4 (address : Nat)
  | ipv6 (pieces : List Nat)
  deriving DecidableEq, Repr

namespace Host

def text : Host → String
  | domain name => name
  | ipv4 address => Ipv4.text address
  | ipv6 pieces => "[" ++ Ipv6.text pieces ++ "]"

def bracketed? (cs : List Char) : Option Host :=
  if cs.getLast? = some ']' then (Ipv6.address? cs.dropLast).map ipv6 else none

-- The host of an address whose scheme means the network.
def ofText? (cs : List Char) : Option Host :=
  match cs with
  | '[' :: rest => bracketed? rest
  | cs => do
    let decoded ← (Text.Utf8.decode (percentDecode (Text.Utf8.encode cs))).toOption
    let name ← Idna.toAscii? decoded
    if name.isEmpty then none
    else if Ipv4.endsInNumber name then (Ipv4.address? name).map ipv4
    else return domain (String.ofList name)

def isForbiddenInOpaque (c : Char) : Bool :=
  "\x00\t\n\r #/:<>?@[\\]^|".toList.contains c

-- The host of any other address. It may be empty.
def ofOpaqueText? (cs : List Char) : Option Host :=
  match cs with
  | '[' :: rest => bracketed? rest
  | cs =>
    if cs.any isForbiddenInOpaque then none
    else some (domain (String.ofList (percentEncode isControl cs)))

end Host

end ArtifactSync.Url

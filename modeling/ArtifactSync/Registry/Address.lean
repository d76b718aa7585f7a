import ArtifactSync.Instances
import ArtifactSync.Registry.Reference
import ArtifactSync.Text.Blank

namespace ArtifactSync.Registry

structure Address where
  registry : String
  repository : String
  deriving DecidableEq, Repr

namespace Address

inductive Fault
  | empty
  | hasScheme (address : String)
  | noRepository (address : String)
  | hasTagOrDigest (address : String)
  | invalid (address : String) (f : Reference.Fault)
  deriving DecidableEq, Repr

def Fault.message : Fault → String
  | empty => "registry address is empty"
  | hasScheme address => s!"Registry address '{address}' must not carry a scheme"
  | noRepository address => s!"Registry address '{address}' must be of the form host/repository"
  | hasTagOrDigest address => s!"Registry address '{address}' must not include a tag or digest"
  | invalid address f => s!"Invalid registry address '{address}': {f.message}"

-- Blanks around an address and slashes at its end do not count.
def trim (text : String) : List Char :=
  ((Text.trimChars text.toList).reverse.dropWhile (· = '/')).reverse

-- What follows the last slash.
def lastSegment (cs : List Char) : List Char :=
  (cs.reverse.takeWhile (· ≠ '/')).reverse

def ofText (text : String) : Except Fault Address :=
  let cs := trim text
  let address := String.ofList cs
  if cs.isEmpty then .error .empty
  else if "://".toList <:+: cs then .error (.hasScheme address)
  else if !cs.contains '/' then .error (.noRepository address)
  else if cs.contains '@' || (lastSegment cs).contains ':' then .error (.hasTagOrDigest address)
  else
    match Reference.ofText address with
    | .ok r => .ok ⟨r.registry, r.repository⟩
    | .error f => .error (.invalid address f)

inductive ReferenceFault
  | empty
  | invalid (text : String) (f : Reference.Fault)
  deriving DecidableEq, Repr

def ReferenceFault.message : ReferenceFault → String
  | empty => "artifact reference is empty"
  | invalid text f => s!"Invalid artifact reference '{text}': {f.message}"

-- The artifact of that name in the repository. Only a digest has a colon in it.
def reference (a : Address) (artifact : String) : Except ReferenceFault Reference :=
  let cs := Text.trimChars artifact.toList
  if cs.isEmpty then .error .empty
  else
    let separator := if cs.contains ':' then "@" else ":"
    let text := a.registry ++ "/" ++ a.repository ++ separator ++ String.ofList cs
    match Reference.ofText text with
    | .ok r => .ok r
    | .error f => .error (.invalid text f)

end Address

end ArtifactSync.Registry

import ArtifactSync.Config
import ArtifactSync.Error
import ArtifactSync.Registry.Address
import ArtifactSync.Registry.Credentials
import ArtifactSync.Registry.Retry
import ArtifactSync.Registry.PullCredential

namespace ArtifactSync.Registry

-- What all accesses have in common.
structure Options where
  -- Registries spoken to without encryption.
  insecure : List String := []
  retry : RetryPolicy := {}
  -- Where staging areas are made.
  stagingRoot : Option String := none
  deriving DecidableEq, Repr

def Options.ofConfig (c : Config) : Options where
  insecure := c.insecureRegistries
  stagingRoot := c.stagingRoot

structure Client where
  address : Address
  login : Login
  options : Options
  deriving DecidableEq, Repr

namespace Client

-- The login for a registry. Empty credentials are none.
def loginFor (registry : String) (credential : Option PullCredential) : Except Error Login :=
  match credential.filter (!·.isEmpty) with
  | none => .ok .anonymous
  | some c =>
    match CredentialStore.ofDockerConfig c.bytes with
    | .ok store => .ok (store.login registry)
    | .error f => .error (.invalidRegistry f.message)

def connect (address : String) (credential : Option PullCredential) (options : Options) :
    Except Error Client := do
  match Address.ofText address with
  | .error f => .error (.invalidRegistry f.message)
  | .ok address => return ⟨address, ← loginFor address.registry credential, options⟩

def reference (c : Client) (artifact : String) : Except Error Reference :=
  match c.address.reference artifact with
  | .ok r => .ok r
  | .error f => .error (.invalidRegistry f.message)

-- Encryption is the rule.
def scheme (c : Client) (r : Reference) : String :=
  if r.host ∈ c.options.insecure then "http" else "https"

end Client

end ArtifactSync.Registry

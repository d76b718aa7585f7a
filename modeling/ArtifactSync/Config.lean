import ArtifactSync.Duration
import ArtifactSync.Text.Blank
import ArtifactSync.Text.Decimal
import ArtifactSync.Text.Split
import ArtifactSync.Text.Utf8

namespace ArtifactSync

structure Config where
  requeueInterval : Duration := .ofSeconds 60
  registryTimeout : Duration := .ofSeconds 120
  -- Registries spoken to without encryption.
  insecureRegistries : List String := []
  -- Where staging areas are made.
  stagingRoot : Option String := none
  deriving DecidableEq, Repr

namespace Config

-- A setting that is no number of seconds.
structure Fault where
  name : String
  value : String
  cause : Text.Decimal.Fault
  deriving DecidableEq, Repr

def Fault.message (f : Fault) : String :=
  s!"{f.name} must be a number of seconds, got '{f.value}': {f.cause.message}"

abbrev Environment := String → Option Bytes

def setting? (env : Environment) (name : String) : Option String := do
  match Text.Utf8.decode (← env name) with
  | .ok cs => some (String.ofList cs)
  | .error _ => none

def seconds (env : Environment) (name : String) (unset : Duration) : Except Fault Duration :=
  match setting? env name with
  | none => .ok unset
  | some value =>
    match Text.Decimal.natural (2 ^ 64) (Text.trimChars value.toList) with
    | .ok n => .ok (.ofSeconds n)
    | .error cause => .error ⟨name, value, cause⟩

def registryList (value : String) : List String :=
  ((Text.splitOn ',' value.toList).map Text.trimChars).filterMap fun piece =>
    if piece.isEmpty then none else some (String.ofList piece)

def ofEnvironment (env : Environment) : Except Fault Config := do
  let standard : Config := {}
  let requeueInterval ← seconds env "REQUEUE_INTERVAL_SECS" standard.requeueInterval
  let registryTimeout ← seconds env "REGISTRY_TIMEOUT_SECS" standard.registryTimeout
  return {
    requeueInterval, registryTimeout
    insecureRegistries := ((setting? env "INSECURE_REGISTRIES").map registryList).getD []
    stagingRoot := (setting? env "STAGING_DIR").filter (!Text.isBlankText ·) }

end Config

end ArtifactSync

import ArtifactSync.Artifact.Content
import ArtifactSync.Desired.Resource
import ArtifactSync.Duration
import ArtifactSync.Error
import ArtifactSync.Interaction
import ArtifactSync.Kubernetes.Secret
import ArtifactSync.Registry.PullCredential

namespace ArtifactSync.Pass

open Kubernetes (Secret)

-- A call, where a connection to a registry is a value of type `ρ`.
inductive Call (ρ : Type)
  | now
  | getSpec (name : String)
  | getSecret (r : SecretRef)
  | createSecret (s : Secret)
  | replaceSecret (s : Secret)
  | connect (address : String) (credential : Option PullCredential) (deadline : Instant)
  | fetchDigest (source : ρ) (artifact : String)
  | fetchContent (source : ρ) (artifact : String)
  -- The end of a pass that cannot go on.
  | halt

variable {ρ : Type}

abbrev Answer : Call ρ → Type
  | .now => Instant
  | .getSpec _ => Except Error (Option OciSecret)
  | .getSecret _ => Except Error (Option Secret)
  | .createSecret _ | .replaceSecret _ => Except Error Unit
  | .connect .. => Except Error ρ
  | .fetchDigest .. => Except Error Digest
  | .fetchContent .. => Except Error Content
  | .halt => Empty

-- The rest of a pass, which ends in a failure or in a value.
abbrev Program (ρ α : Type) := ExceptT Error (Interaction (Answer (ρ := ρ))) α

namespace Program

def now : Program ρ Instant :=
  ExceptT.lift (Interaction.question Call.now)

def getSpec (name : String) : Program ρ (Option OciSecret) :=
  ExceptT.mk (Interaction.question (Call.getSpec name))

def getSecret (r : SecretRef) : Program ρ (Option Secret) :=
  ExceptT.mk (Interaction.question (Call.getSecret r))

def createSecret (s : Secret) : Program ρ Unit :=
  ExceptT.mk (Interaction.question (Call.createSecret s))

def replaceSecret (s : Secret) : Program ρ Unit :=
  ExceptT.mk (Interaction.question (Call.replaceSecret s))

def connect (address : String) (credential : Option PullCredential) (deadline : Instant) :
    Program ρ ρ :=
  ExceptT.mk (Interaction.question (Call.connect address credential deadline))

def fetchDigest (source : ρ) (artifact : String) : Program ρ Digest :=
  ExceptT.mk (Interaction.question (Call.fetchDigest source artifact))

def fetchContent (source : ρ) (artifact : String) : Program ρ Content :=
  ExceptT.mk (Interaction.question (Call.fetchContent source artifact))

def halt {α : Type} : Program ρ α :=
  ExceptT.mk (Interaction.ask Call.halt fun never => nomatch never)

end Program

end ArtifactSync.Pass

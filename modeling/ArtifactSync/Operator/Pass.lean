import ArtifactSync.Kubernetes.SecretAccess
import ArtifactSync.Registry.Fetch
import ArtifactSync.Sync.Pass

namespace ArtifactSync.Operator

open Registry (KeptToken Source)

inductive Question
  | now
  | cluster (r : Kubernetes.Request)
  | registry (q : Registry.Question)
  | halt

abbrev Answer : Question → Type
  | .now => Instant
  | .cluster _ => Kubernetes.Answer
  | .registry q => Registry.Answer q
  | .halt => Empty

abbrev Exchange := Interaction Answer

-- A pass keeps a token only for the connection it made last.
abbrev Session := StateT (Option KeptToken) Exchange

def cluster {α : Type} (x : Kubernetes.Exchange α) : Session α :=
  StateT.lift (x.answeredBy fun r => Interaction.question (Question.cluster r))

def registry {α : Type} (x : Source.Session α) : Session α := fun kept =>
  (x.run kept).answeredBy fun q => Interaction.question (Question.registry q)

def connect (options : Registry.Options) (address : String) (credential : Option PullCredential)
    (deadline : Instant) : Session (Except Error Source) := do
  set (none : Option KeptToken)
  return (Registry.Client.connect address credential options).map (⟨·, deadline⟩)

def serve (options : Registry.Options) : (c : Pass.Call Source) → Session (Pass.Answer c)
  | .now => StateT.lift (Interaction.question Question.now)
  | .getSpec name => cluster (Kubernetes.SecretAccess.getSpec name)
  | .getSecret r => cluster (Kubernetes.SecretAccess.get r)
  | .createSecret s => cluster (Kubernetes.SecretAccess.create s)
  | .replaceSecret s => cluster (Kubernetes.SecretAccess.replace s)
  | .connect address credential deadline => connect options address credential deadline
  | .fetchDigest source artifact => registry (source.fetchDigest artifact)
  | .fetchContent source artifact => registry (source.fetchContent artifact)
  | .halt => StateT.lift (Interaction.question Question.halt)

def reconcile (options : Registry.Options) (config : Config) (name : String) :
    Exchange (Except Error Duration) :=
  ((Pass.reconcile config name).run.answeredBy (serve options)).run' none

end ArtifactSync.Operator

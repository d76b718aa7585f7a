import ArtifactSync.Desired.SecretRef

namespace ArtifactSync

open Json (Field Reader Record Value required)

-- The files to keep; no file named means all of them.
structure Selection where
  files : List String := []
  deriving DecidableEq, Repr

namespace Selection

structure Draft where
  files : Option (List String) := none

def record : Record Draft Selection where
  name := "SyncFiles"
  draft := {}
  fields := [⟨"Files", true, (·.files.isSome), fun d =>
    return { d with files := some (← Reader.list Reader.string) }⟩]
  build d := .ok ⟨d.files.getD []⟩

def reader : Reader Selection :=
  record.reader

def toJson (s : Selection) : Value :=
  .ofFields [("Files", if s.files.isEmpty then none else some (.list (s.files.map .string)))]

end Selection

structure Spec where
  -- A tag or a digest of the repository.
  artifact : String
  -- The repository, as `host/path`.
  registry : String
  selection : Option Selection := none
  pullSecret : Option SecretRef := none
  target : SecretRef
  deriving DecidableEq, Repr

namespace Spec

structure Draft where
  artifact : Option String := none
  registry : Option String := none
  selection : Option (Option Selection) := none
  pullSecret : Option (Option SecretRef) := none
  target : Option SecretRef := none

def record : Record Draft Spec where
  name := "OCISecretSpec"
  draft := {}
  fields := [
    ⟨"orasArtefact", false, (·.artifact.isSome), fun d =>
      return { d with artifact := some (← Reader.string) }⟩,
    ⟨"ArtefactRegistry", false, (·.registry.isSome), fun d =>
      return { d with registry := some (← Reader.string) }⟩,
    ⟨"Sync", true, (·.selection.isSome), fun d =>
      return { d with selection := some (← Reader.optional Selection.reader) }⟩,
    ⟨"ArtefactPullSecret", true, (·.pullSecret.isSome), fun d =>
      return { d with pullSecret := some (← Reader.optional SecretRef.reader) }⟩,
    ⟨"targetSecret", false, (·.target.isSome), fun d =>
      return { d with target := some (← SecretRef.reader) }⟩]
  build d := do
    let artifact ← required "orasArtefact" d.artifact
    let registry ← required "ArtefactRegistry" d.registry
    let target ← required "targetSecret" d.target
    return ⟨artifact, registry, d.selection.join, d.pullSecret.join, target⟩

def reader : Reader Spec :=
  record.reader

def toJson (s : Spec) : Value :=
  .ofFields [
    ("orasArtefact", some (.string s.artifact)),
    ("ArtefactRegistry", some (.string s.registry)),
    ("Sync", s.selection.map Selection.toJson),
    ("ArtefactPullSecret", s.pullSecret.map SecretRef.toJson),
    ("targetSecret", some s.target.toJson)]

-- The names to keep, none of them meaning no restriction.
def allowList (s : Spec) : List String :=
  (s.selection.map (·.files)).getD []

-- The pull secret to use, if one is named in full.
def pullSecretRef (s : Spec) : Option SecretRef :=
  s.pullSecret.filter (·.isComplete)

end Spec

end ArtifactSync

import ArtifactSync.Artifact.Content
import ArtifactSync.Registry.Retrieval

namespace ArtifactSync.Registry.Source

variable (s : Source)

-- Repeats a retrieval as the policy says.
def persistently {α : Type} (retrieval : Program (Except Failure α)) :
    Program (Except Failure α) :=
  s.client.options.retry.run Failure.isTransient (Program.pause s) retrieval

-- The steps of fetching content, each of which may fail for good.
abbrev Step := ExceptT Error Program

def failWith {α : Type} (context : String) (retrieval : Program (Except Failure α)) : Step α :=
  ExceptT.mk ((·.mapError fun f => .fetchFailed context f.message) <$> retrieval)

def pullDigest (r : Reference) : Step Digest := do
  return ⟨← failWith s!"digest of {r.text}" (s.persistently (s.manifestDigest r))⟩

def pullManifest (r : Reference) : Step (Manifest × String) :=
  failWith s!"manifest of {r.text}" (s.persistently (s.manifest r))

-- The images that an index lists. An index within an index adds none.
def pullIndexImages (r : Reference) : List IndexEntry → Step (List Image)
  | [] => return []
  | entry :: rest => do
    -- Every entry is asked for, also one that turns out to be an index.
    let (manifest, _) ← s.pullManifest (r.withDigest entry.digest)
    let images ← pullIndexImages r rest
    match manifest with
    | .image i => return i :: images
    | .index _ => return images

def pullImages (r : Reference) : Manifest → Step (List Image)
  | .image i => return [i]
  | .index i => s.pullIndexImages r i.manifests

def pullLayer (r : Reference) (layer : Descriptor) : Step Bytes := do
  let content ← failWith s!"layer {layer.digest}" (s.persistently (s.blob r layer))
  ofExcept (Retrieval.verify layer.digest content)
  return content

-- Gathers the layers that hold a file; of several with one digest only the first.
def stageLayers (r : Reference) (staged : List String) (area : Staging.Area) :
    List Descriptor → Step Staging.Area
  | [] => return area
  | layer :: rest => do
    match layer.title? with
    | none => stageLayers r staged area rest
    | some title =>
      if layer.isPacked || staged.contains layer.digest then stageLayers r staged area rest
      else
        let content ← s.pullLayer r layer
        let (result, area) ←
          ExceptT.lift (area.write (Program.storeFile s staged.length) title content)
        ofExcept result
        stageLayers r (layer.digest :: staged) area rest

-- Makes the staging area before anything is asked of the registry, and reads the files back from it
-- in the end.
def pullContent (r : Reference) : Step Content := do
  let made ← ExceptT.lift (Program.makeDirectory s.client.options.stagingRoot)
  let area ← ofExcept (Staging.Area.create made)
  let (manifest, digest) ← s.pullManifest r
  let images ← s.pullImages r manifest
  let area ← s.stageLayers r [] area (images.flatMap (·.layers))
  let reading ← ExceptT.lift (Program.readBack s)
  return ⟨⟨digest⟩, ← ofExcept (area.readFiles reading)⟩

-- What is left of the steps: their outcome, and the token to keep.
abbrev Session := StateT (Option KeptToken) Exchange

-- The deadline counts for all steps together.
def withinDeadline {α : Type} (context : String) (steps : Step α) : Session (Except Error α) := do
  match ← steps.run.run with
  | some result => return result
  | none => return .error (.fetchFailed context "deadline has elapsed")

def fetchDigest (artifact : String) : Session (Except Error Digest) :=
  match s.client.reference artifact with
  | .error e => return .error e
  | .ok r => withinDeadline s!"digest of {r.text}" (s.pullDigest r)

def fetchContent (artifact : String) : Session (Except Error Content) :=
  match s.client.reference artifact with
  | .error e => return .error e
  | .ok r => withinDeadline s!"content of {r.text}" (s.pullContent r)

end ArtifactSync.Registry.Source

import ArtifactSync.Dict
import ArtifactSync.Json.Record
import ArtifactSync.Json.Value
import ArtifactSync.Registry.Failure

namespace ArtifactSync.Registry

open Json (Field Reader Record Value required)

-- A piece of content by its digest.
structure Descriptor where
  mediaType : String
  digest : String
  size : Int
  urls : Option (List String) := none
  annotations : Option (Dict String) := none
  deriving DecidableEq, Repr

structure Image where
  config : Descriptor
  layers : List Descriptor
  deriving DecidableEq, Repr

-- One manifest of an index.
structure IndexEntry where
  mediaType : String
  digest : String
  size : Int
  deriving DecidableEq, Repr

structure Index where
  manifests : List IndexEntry
  deriving DecidableEq, Repr

inductive Manifest
  | image (i : Image)
  | index (i : Index)
  deriving DecidableEq, Repr

def size : Reader Int :=
  Reader.integer "i64" (-2 ^ 63) (2 ^ 63)

def annotations : Reader (Option (Dict String)) :=
  Reader.optional (Reader.dict Reader.string)

def optionalTexts : Reader (Option (List String)) :=
  Reader.optional (Reader.list Reader.string)

namespace Descriptor

-- The name of the file that a layer holds.
def titleAnnotation : String := "org.opencontainers.image.title"

-- Says that a layer holds a packed directory and not a file.
def unpackAnnotation : String := "io.deis.oras.content.unpack"

structure Draft where
  mediaType : Option String := none
  digest : Option String := none
  size : Option Int := none
  urls : Option (Option (List String)) := none
  annotations : Option (Option (Dict String)) := none

def record : Record Draft Descriptor where
  name := "OciDescriptor"
  draft := {}
  fields := [
    ⟨"mediaType", false, (·.mediaType.isSome), fun d =>
      return { d with mediaType := some (← Reader.string) }⟩,
    ⟨"digest", false, (·.digest.isSome), fun d =>
      return { d with digest := some (← Reader.string) }⟩,
    ⟨"size", false, (·.size.isSome), fun d => return { d with size := some (← Registry.size) }⟩,
    ⟨"urls", false, (·.urls.isSome), fun d =>
      return { d with urls := some (← optionalTexts) }⟩,
    ⟨"annotations", false, (·.annotations.isSome), fun d =>
      return { d with annotations := some (← Registry.annotations) }⟩]
  build d := do
    let mediaType ← required "mediaType" d.mediaType
    let digest ← required "digest" d.digest
    let size ← required "size" d.size
    return ⟨mediaType, digest, size, d.urls.join, d.annotations.join⟩

def annotation? (d : Descriptor) (name : String) : Option String :=
  d.annotations.bind (·.find? name)

def title? (d : Descriptor) : Option String :=
  d.annotation? titleAnnotation

def isPacked (d : Descriptor) : Bool :=
  d.annotation? unpackAnnotation = some "true"

end Descriptor

namespace Image

structure Draft where
  schemaVersion : Option Int := none
  mediaType : Option (Option String) := none
  config : Option Descriptor := none
  layers : Option (List Descriptor) := none
  artifactType : Option (Option String) := none
  annotations : Option (Option (Dict String)) := none

def schemaVersion : Reader Int :=
  Reader.integer "u8" 0 (2 ^ 8)

def record : Record Draft Image where
  name := "OciImageManifest"
  draft := {}
  fields := [
    ⟨"schemaVersion", false, (·.schemaVersion.isSome), fun d =>
      return { d with schemaVersion := some (← Image.schemaVersion) }⟩,
    ⟨"mediaType", false, (·.mediaType.isSome), fun d =>
      return { d with mediaType := some (← Reader.optional Reader.string) }⟩,
    ⟨"config", false, (·.config.isSome), fun d =>
      return { d with config := some (← Descriptor.record.reader) }⟩,
    ⟨"layers", false, (·.layers.isSome), fun d =>
      return { d with layers := some (← Reader.list Descriptor.record.reader) }⟩,
    ⟨"artifactType", false, (·.artifactType.isSome), fun d =>
      return { d with artifactType := some (← Reader.optional Reader.string) }⟩,
    ⟨"annotations", false, (·.annotations.isSome), fun d =>
      return { d with annotations := some (← Registry.annotations) }⟩]
  build d := do
    let _ ← required "schemaVersion" d.schemaVersion
    let config ← required "config" d.config
    let layers ← required "layers" d.layers
    return ⟨config, layers⟩

end Image

-- The machine that a manifest is for; it is read and not looked at.
structure PlatformDraft where
  architecture : Option String := none
  os : Option String := none
  osVersion : Option (Option String) := none
  osFeatures : Option (Option (List String)) := none
  variant : Option (Option String) := none
  features : Option (Option (List String)) := none

def platformRecord : Record PlatformDraft Unit where
  name := "Platform"
  draft := {}
  fields := [
    ⟨"architecture", false, (·.architecture.isSome), fun d =>
      return { d with architecture := some (← Reader.string) }⟩,
    ⟨"os", false, (·.os.isSome), fun d => return { d with os := some (← Reader.string) }⟩,
    ⟨"os.version", false, (·.osVersion.isSome), fun d =>
      return { d with osVersion := some (← Reader.optional Reader.string) }⟩,
    ⟨"os.features", false, (·.osFeatures.isSome), fun d =>
      return { d with osFeatures := some (← optionalTexts) }⟩,
    ⟨"variant", false, (·.variant.isSome), fun d =>
      return { d with variant := some (← Reader.optional Reader.string) }⟩,
    ⟨"features", false, (·.features.isSome), fun d =>
      return { d with features := some (← optionalTexts) }⟩]
  build d := do
    let _ ← required "architecture" d.architecture
    let _ ← required "os" d.os
    return ()

namespace IndexEntry

structure Draft where
  mediaType : Option String := none
  digest : Option String := none
  size : Option Int := none
  platform : Option (Option Unit) := none
  annotations : Option (Option (Dict String)) := none

def record : Record Draft IndexEntry where
  name := "ImageIndexEntry"
  draft := {}
  fields := [
    ⟨"mediaType", false, (·.mediaType.isSome), fun d =>
      return { d with mediaType := some (← Reader.string) }⟩,
    ⟨"digest", false, (·.digest.isSome), fun d =>
      return { d with digest := some (← Reader.string) }⟩,
    ⟨"size", false, (·.size.isSome), fun d => return { d with size := some (← Registry.size) }⟩,
    ⟨"platform", false, (·.platform.isSome), fun d =>
      return { d with platform := some (← Reader.optional platformRecord.reader) }⟩,
    ⟨"annotations", false, (·.annotations.isSome), fun d =>
      return { d with annotations := some (← Registry.annotations) }⟩]
  build d := do
    let mediaType ← required "mediaType" d.mediaType
    let digest ← required "digest" d.digest
    let size ← required "size" d.size
    return ⟨mediaType, digest, size⟩

end IndexEntry

namespace Index

structure Draft where
  schemaVersion : Option Int := none
  mediaType : Option (Option String) := none
  manifests : Option (List IndexEntry) := none
  annotations : Option (Option (Dict String)) := none

def record : Record Draft Index where
  name := "OciImageIndex"
  draft := {}
  fields := [
    ⟨"schemaVersion", false, (·.schemaVersion.isSome), fun d =>
      return { d with schemaVersion := some (← Image.schemaVersion) }⟩,
    ⟨"mediaType", false, (·.mediaType.isSome), fun d =>
      return { d with mediaType := some (← Reader.optional Reader.string) }⟩,
    ⟨"manifests", false, (·.manifests.isSome), fun d =>
      return { d with manifests := some (← Reader.list IndexEntry.record.reader) }⟩,
    ⟨"annotations", false, (·.annotations.isSome), fun d =>
      return { d with annotations := some (← Registry.annotations) }⟩]
  build d := do
    let _ ← required "schemaVersion" d.schemaVersion
    let manifests ← required "manifests" d.manifests
    return ⟨manifests⟩

end Index

namespace Manifest

-- What every manifest says first.
structure Head where
  schemaVersion : Int
  mediaType : Option String
  deriving DecidableEq, Repr

namespace Head

structure Draft where
  schemaVersion : Option Int := none
  mediaType : Option (Option String) := none

def record : Record Draft Head where
  name := "Versioned"
  draft := {}
  fields := [
    ⟨"schemaVersion", false, (·.schemaVersion.isSome), fun d =>
      return { d with schemaVersion := some (← Reader.integer "i32" (-2 ^ 31) (2 ^ 31)) }⟩,
    ⟨"mediaType", false, (·.mediaType.isSome), fun d =>
      return { d with mediaType := some (← Reader.optional Reader.string) }⟩]
  build d := do
    let schemaVersion ← required "schemaVersion" d.schemaVersion
    return ⟨schemaVersion, d.mediaType.join⟩

end Head

def mediaTypes : List String := [
  "application/vnd.docker.distribution.manifest.v2+json",
  "application/vnd.docker.distribution.manifest.list.v2+json",
  "application/vnd.oci.image.manifest.v1+json",
  "application/vnd.oci.image.index.v1+json"]

def checkHead (text : Bytes) : Except Failure Unit :=
  match Json.read Head.record.reader text with
  | .error e => .error (.manifestHead e)
  | .ok head =>
    if head.schemaVersion ≠ 2 then .error (.schemaVersion head.schemaVersion)
    else
      match head.mediaType with
      | none => .ok ()
      | some kind => if kind ∈ mediaTypes then .ok () else .error (.mediaType kind)

def noShape : String :=
  "data did not match any variant of untagged enum OciManifest"

-- An image if the text can be one, else an index.
def ofMembers (text : Bytes) : Except Failure Manifest :=
  -- A text that is no JSON is told by what is wrong with it, any other by a phrase.
  match Json.read Value.reader text with
  | .error e => .error (.manifestShape e.message)
  | .ok _ =>
    match Json.read Image.record.reader text with
    | .ok i => .ok (.image i)
    | .error _ =>
      match Json.read Index.record.reader text with
      | .ok i => .ok (.index i)
      | .error _ => .error (.manifestShape noShape)

def ofText (text : Bytes) : Except Failure Manifest := do
  if (Text.Utf8.decode text).toOption.isNone then throw .notText
  checkHead text
  ofMembers text

end Manifest

end ArtifactSync.Registry

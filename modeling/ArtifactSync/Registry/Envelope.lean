import ArtifactSync.Json.Record
import ArtifactSync.Json.Value

namespace ArtifactSync.Registry.Envelope

open Json (Field Reader Record Value required)

def codes : List String := [
  "BLOB_UNKNOWN", "BLOB_UPLOAD_INVALID", "BLOB_UPLOAD_UNKNOWN", "DIGEST_INVALID",
  "MANIFEST_BLOB_UNKNOWN", "MANIFEST_INVALID", "MANIFEST_UNKNOWN", "MANIFEST_UNVERIFIED",
  "NAME_INVALID", "NAME_UNKNOWN", "SIZE_INVALID", "TAG_INVALID", "UNAUTHORIZED", "DENIED",
  "UNSUPPORTED", "TOOMANYREQUESTS"]

def ticked (s : String) : String :=
  "\x60" ++ s ++ "\x60"

def unknownCode (code : String) : String :=
  s!"unknown variant {ticked code}, expected one of " ++ ", ".intercalate (codes.map ticked)

def code : Reader Unit :=
  Reader.stringWith "variant identifier" fun s =>
    if s ∈ codes then .ok () else .error (.rejected (unknownCode s))

structure ErrorDraft where
  code : Option Unit := none
  message : Option String := none
  detail : Option Value := none

-- Of an error only the message is kept, which is empty where none is given.
def errorRecord : Record ErrorDraft String where
  name := "OciError"
  draft := {}
  fields := [
    ⟨"code", false, (·.code.isSome), fun d => return { d with code := some (← Envelope.code) }⟩,
    ⟨"message", true, (·.message.isSome), fun d =>
      return { d with message := some (← Reader.string) }⟩,
    ⟨"detail", true, (·.detail.isSome), fun d =>
      return { d with detail := some (← Value.reader) }⟩]
  build d := do
    let _ ← required "code" d.code
    return d.message.getD ""

structure Draft where
  errors : Option (List String) := none

-- The messages of all errors.
def record : Record Draft (List String) where
  name := "OciEnvelope"
  draft := {}
  fields := [⟨"errors", false, (·.errors.isSome), fun d =>
    return { d with errors := some (← Reader.list errorRecord.reader) }⟩]
  build d := required "errors" d.errors

end ArtifactSync.Registry.Envelope

import ArtifactSync.Http.StatusCode
import ArtifactSync.Json.Record
import ArtifactSync.Text.Quoted

namespace ArtifactSync.Kubernetes

open Http (StatusCode)
open Json (Field Reader Record required)

structure ApiFailure where
  status : String
  message : String := ""
  reason : String := ""
  code : Nat
  deriving DecidableEq, Repr

namespace ApiFailure

structure Draft where
  status : Option String := none
  message : Option String := none
  reason : Option String := none
  code : Option Nat := none

def record : Record Draft ApiFailure where
  name := "ErrorResponse"
  draft := {}
  fields := [
    ⟨"status", false, (·.status.isSome), fun d =>
      return { d with status := some (← Reader.string) }⟩,
    ⟨"message", true, (·.message.isSome), fun d =>
      return { d with message := some (← Reader.string) }⟩,
    ⟨"reason", true, (·.reason.isSome), fun d =>
      return { d with reason := some (← Reader.string) }⟩,
    ⟨"code", false, (·.code.isSome), fun d =>
      return { d with code := some (← Reader.integer "u16" 0 (2 ^ 16)).toNat }⟩]
  build d := do
    let status ← required "status" d.status
    let code ← required "code" d.code
    return ⟨status, d.message.getD "", d.reason.getD "", code⟩

-- Stands for a body that could not be understood.
def ofBody (status : StatusCode) (body : String) : ApiFailure where
  status := status.text
  message := Text.quoted body
  reason := "Failed to parse error data"
  code := status.number

def notFound : String := "NotFound"

def conflict : String := "Conflict"

def alreadyExists : String := "AlreadyExists"

-- The refusal field by field, in braces.
def details (f : ApiFailure) : String :=
  "ErrorResponse \x7b status: " ++ Text.quoted f.status ++ ", message: " ++ Text.quoted f.message ++
    ", reason: " ++ Text.quoted f.reason ++ s!", code: {f.code} \x7d"

def text (f : ApiFailure) : String :=
  s!"ApiError: {f.message}: {f.reason} ({f.details})"

end ApiFailure

end ArtifactSync.Kubernetes

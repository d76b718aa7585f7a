import ArtifactSync.Proofs.Json.Understands
import ArtifactSync.Registry.Credentials

namespace ArtifactSync.Registry

open Json

variable {depth : Nat}

namespace AuthEntry

def toJson (e : AuthEntry) : Value :=
  .ofFields [
    ("auth", e.auth.map .string),
    ("username", e.username.map .string),
    ("password", e.password.map .string)]

theorem understands_text {α : Type} {f : Option String → α} (s : String) :
    Understands depth (do return f (← Reader.optional Reader.string)) (.string s) (f (some s)) :=
  understands_bind_pure (understands_optional nofun understands_string) rfl

theorem understands_toJson {e : AuthEntry} :
    Understands (depth + 1) record.reader e.toJson e := by
  let read : Draft := ⟨e.auth.map some, e.username.map some, e.password.map some⟩
  have same (o : Option String) : (o.map some).join = o := by cases o <;> rfl
  have built : record.build read = .ok e := by simp [record, read, same]
  refine understands_record (s := read) ?_ built
  refine .perhaps (g := fun o => { auth := o.map some }) rfl (fun a ha => ?_) ?_
  case refine_1 =>
    rw [ha]
    exact enters_field rfl rfl (understands_text a)
  refine .perhaps (g := fun o => { auth := e.auth.map some, username := o.map some }) rfl
    (fun a ha => ?_) ?_
  case refine_1 =>
    rw [ha]
    exact enters_field rfl rfl (understands_text a)
  refine .perhaps (g := fun o => { read with password := o.map some }) rfl (fun a ha => ?_) .nil
  rw [ha]
  exact enters_field rfl rfl (understands_text a)

end AuthEntry

namespace CredentialStore

-- A config of these entries.
def configOf (auths : Dict AuthEntry) : Value :=
  .object [("auths", .ofDict AuthEntry.toJson auths)]

def written (auths : Dict AuthEntry) : Bytes :=
  bytesOf (configOf auths).write

theorem read_written (auths : Dict AuthEntry) :
    Json.read record.reader (written auths) = .ok auths := by
  have entries : Understands 2 (Reader.dict AuthEntry.record.reader)
      (.ofDict AuthEntry.toJson auths) auths :=
    understands_dict fun _ _ => AuthEntry.understands_toJson
  have whole : Understands 3 record.reader (configOf auths) auths := by
    refine understands_record (s := ⟨some auths⟩) ?_ rfl
    exact .cons (enters_field rfl rfl (understands_bind_pure entries rfl)) .nil
  exact read_of_understands whole (by decide)

end CredentialStore

end ArtifactSync.Registry

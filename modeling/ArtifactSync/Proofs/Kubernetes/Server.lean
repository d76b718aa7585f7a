import ArtifactSync.Kubernetes.Server
import ArtifactSync.Proofs.Kubernetes.Roundtrip
import ArtifactSync.Sync.Store

namespace ArtifactSync.Kubernetes

open Json
open Json.Reader

variable {s : Secret} {v : Value} {n : Nat}

namespace ObjectMeta

-- The members of metadata, those that are missing included.
def members (m : ObjectMeta) : List (String × Option Value) := [
  ("annotations", m.annotations.map (.ofDict .string)),
  ("creationTimestamp", m.creationTimestamp.map Time.toJson),
  ("deletionGracePeriodSeconds", m.deletionGracePeriodSeconds.map .ofInt),
  ("deletionTimestamp", m.deletionTimestamp.map Time.toJson),
  ("finalizers", m.finalizers.map fun fs => .list (fs.map .string)),
  ("generateName", m.generateName.map .string),
  ("generation", m.generation.map .ofInt),
  ("labels", m.labels.map (.ofDict .string)),
  ("managedFields", m.managedFields.map fun ms => .list (ms.map ManagedFields.toJson)),
  ("name", m.name.map .string),
  ("namespace", m.namespace.map .string),
  ("ownerReferences", m.ownerReferences.map fun os => .list (os.map OwnerReference.toJson)),
  ("resourceVersion", m.resourceVersion.map .string),
  ("selfLink", m.selfLink.map .string),
  ("uid", m.uid.map .string)]

theorem distinct_members {m : ObjectMeta} : Value.Distinct m.members := by
  simp [Value.Distinct, members]

end ObjectMeta

namespace Server

theorem metadata_toJson : metadata s.toJson = s.metadata.toJson := by
  have given : s.toJson.member? "metadata" = some s.metadata.toJson :=
    Value.member?_ofFields Secret.distinct_sent (by simp)
  rw [metadata, given, Option.getD_some]

theorem versionOf?_toJson : versionOf? s.toJson = s.metadata.resourceVersion.map .string := by
  rw [versionOf?, metadata_toJson]
  exact Value.member?_ofFields ObjectMeta.distinct_members (by simp)

theorem nameOf_toJson {name : String} (named : s.metadata.name = some name) :
    nameOf s.toJson = name := by
  have given : s.metadata.toJson.member? "name" = some (.string name) :=
    Value.member?_ofFields ObjectMeta.distinct_members (by simp [named])
  rw [nameOf, metadata_toJson, given]

theorem versionOf?_canonical : versionOf? v.canonical = (versionOf? v).map Value.canonical := by
  have inner : metadata v.canonical = (metadata v).canonical := by
    rw [metadata, metadata, Value.member?_canonical]
    cases v.member? "metadata" <;> rfl
  rw [versionOf?, inner, Value.member?_canonical, versionOf?]

-- Giving a secret a version in its JSON form or in itself is the same.
theorem canonical_withVersion :
    (withVersion s.toJson n).canonical = (Store.withVersion s n).toJson.canonical := by
  let newer := Store.withVersion s n
  have inner : ((s.metadata.toJson).withMember "resourceVersion" (.string (toString n))).canonical =
      newer.metadata.toJson.canonical :=
    Value.canonical_withMember ObjectMeta.distinct_members
      (o := s.metadata.resourceVersion.map .string) (by simp) rfl
  rw [withVersion, metadata_toJson]
  exact Value.canonical_withMember Secret.distinct_sent (o := some s.metadata.toJson)
    (by simp) inner

variable {server : Server} {path : String} {body stored : Value}

theorem create_free (free : server.objects.find? (path ++ "/" ++ nameOf body) = none) :
    server.create path body =
      (json 201 (server.store (path ++ "/" ++ nameOf body) body).1,
        (server.store (path ++ "/" ++ nameOf body) body).2) := by
  unfold create
  dsimp only
  rw [free]
  rfl

theorem create_taken (taken : server.objects.find? (path ++ "/" ++ nameOf body) = some stored) :
    ∃ message, server.create path body =
      (refusal 409 ApiFailure.alreadyExists message, server) := by
  unfold create
  dsimp only
  rw [taken]
  exact ⟨_, rfl⟩

theorem replace_absent (absent : server.objects.find? path = none) :
    server.replace path body = (notFound path, server) := by
  rw [replace, absent]

theorem replace_outdated (held : server.objects.find? path = some stored)
    (outdated : isOutdated stored body = true) : ∃ message, server.replace path body =
      (refusal 409 ApiFailure.conflict message, server) := by
  rw [replace, held]
  dsimp only
  rw [if_pos outdated]
  exact ⟨_, rfl⟩

theorem replace_current (held : server.objects.find? path = some stored)
    (current : isOutdated stored body = false) : server.replace path body =
      (json 200 (server.store path body).1, (server.store path body).2) := by
  rw [replace, held]
  dsimp only
  rw [if_neg (Bool.eq_false_iff.1 current)]

-- What a refusal says.
def status (code : Nat) (reason message : String) : Value :=
  .object [
    ("kind", .string "Status"),
    ("apiVersion", .string "v1"),
    ("status", .string "Failure"),
    ("message", .string message),
    ("reason", .string reason),
    ("code", .number (.natural code))]

theorem refusal_eq {code : Nat} {reason message : String} :
    refusal code reason message = json code (status code reason message) :=
  rfl

theorem understands_code {code : Nat} (small : code < 2 ^ 16) :
    Understands 0 (Reader.integer "u16" 0 (2 ^ 16)) (.number (.natural code)) code := by
  have whole : Value.number (.natural code) = .ofInt code := by
    simp [Value.ofInt]
  rw [whole]
  exact understands_integer (Value.isExact_ofInt (by omega) (by omega)) (by omega) (by omega)

theorem understands_status {code : Nat} (reason message : String) (small : code < 2 ^ 16) :
    Understands 1 ApiFailure.record.reader (status code reason message)
      ⟨"Failure", message, reason, code⟩ := by
  refine understands_record (s := ⟨some "Failure", some message, some reason, some code⟩) ?_ rfl
  refine .cons (enters_unknown rfl .string) ?_
  refine .cons (enters_unknown rfl .string) ?_
  refine .cons (enters_field rfl rfl (understands_bind_pure understands_string rfl)) ?_
  refine .cons (enters_field rfl rfl (understands_bind_pure understands_string rfl)) ?_
  refine .cons (enters_field rfl rfl (understands_bind_pure understands_string rfl)) ?_
  refine .cons (enters_field rfl rfl (understands_bind_pure (understands_code small) rfl)) ?_
  exact .nil

theorem body_json {code : Nat} : (json code v).body = bytesOf v.write :=
  rfl

-- A refusal is read with all that it says.
theorem read_status {code : Nat} (reason message : String)
    (refused : (Http.StatusCode.mk code).isError = true) :
    Json.read ApiFailure.record.reader (bytesOf (status code reason message).write) =
      .ok ⟨"Failure", message, reason, code⟩ := by
  have small : code < 2 ^ 16 := by
    simp only [Http.StatusCode.isError, Http.StatusCode.isClientError,
      Http.StatusCode.isServerError, Bool.or_eq_true, Bool.and_eq_true,
      decide_eq_true_eq] at refused
    omega
  exact read_of_understands (understands_status reason message small) (by decide)

end Server

end ArtifactSync.Kubernetes

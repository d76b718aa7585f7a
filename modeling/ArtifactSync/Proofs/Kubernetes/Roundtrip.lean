import ArtifactSync.Kubernetes.Secret
import ArtifactSync.Proofs.Json.Canonical
import ArtifactSync.Proofs.Kubernetes.Time
import ArtifactSync.Proofs.Text.Base64

namespace ArtifactSync.Kubernetes

open Json
open Json.Reader

variable {depth : Nat}

theorem understands_time {t : Time} (sound : t.IsSound) :
    Understands depth Time.reader t.toJson t :=
  understands_stringWith (by rw [Time.ofText_text sound])

theorem understands_lenientText {s : String} : Understands depth lenientText (.string s) s :=
  understands_bind_pure (understands_optional nofun understands_string) rfl

theorem understands_textDict {d : Dict String} :
    Understands (depth + 1) textDict (.ofDict .string d) d :=
  understands_dict fun _ _ => understands_string

namespace OwnerReference

theorem understands_toJson {o : OwnerReference} :
    Understands (depth + 1) OwnerReference.reader o.toJson o := by
  refine understands_of_object (understands_members ?_) fun _ _ _ _ _ => rfl
  refine .given (enters_bind understands_lenientText rfl) ?_
  refine .optional rfl rfl (fun _ _ => ⟨nofun, understands_boolean⟩) ?_
  refine .optional rfl rfl (fun _ _ => ⟨nofun, understands_boolean⟩) ?_
  refine .given (enters_bind understands_lenientText rfl) ?_
  refine .given (enters_bind understands_lenientText rfl) ?_
  refine .given (enters_bind understands_lenientText rfl) ?_
  exact .nil

theorem canonical_toJson {o : OwnerReference} : o.toJson.canonical = o.toJson :=
  Value.canonical_ofFields (by simp only [List.map_cons, List.map_nil]; decide +kernel)
    (by simp [-Bool.exists_bool, -Bool.forall_bool])

end OwnerReference

def IsInt64 (i : Int) : Prop :=
  -2 ^ 63 ≤ i ∧ i < 2 ^ 63

theorem understands_int64 {i : Int} (fits : IsInt64 i) : Understands depth int64 (.ofInt i) i :=
  understands_integer (Value.isExact_ofInt fits.1 fits.2) fits.1 fits.2

namespace ManagedFields

-- An entry that is told by its JSON form: with a value that is there, in order, of numbers that are
-- read as they are written, and not too deep to be read.
structure IsSound (m : ManagedFields) : Prop where
  fields : ∀ v ∈ m.fieldsV1, v ≠ .null ∧ v.canonical = v ∧ v.IsExact 123
  time   : ∀ t ∈ m.time, t.IsSound

theorem understands_toJson {m : ManagedFields} (sound : m.IsSound) :
    Understands 124 ManagedFields.reader m.toJson m := by
  have value (v : Value) (hv : v ∈ m.fieldsV1) : v ≠ .null ∧ Understands 123 Value.reader v v :=
    ⟨(sound.fields v hv).1, understands_value (sound.fields v hv).2.2 (by decide)⟩
  refine understands_of_object (understands_members ?_) fun _ _ _ _ _ => rfl
  refine .optional rfl rfl (fun _ _ => ⟨nofun, understands_string⟩) ?_
  refine .optional rfl rfl (fun _ _ => ⟨nofun, understands_string⟩) ?_
  refine .optional_value rfl rfl value ?_
  refine .optional rfl rfl (fun _ _ => ⟨nofun, understands_string⟩) ?_
  refine .optional rfl rfl (fun _ _ => ⟨nofun, understands_string⟩) ?_
  refine .optional rfl rfl (fun _ _ => ⟨nofun, understands_string⟩) ?_
  refine .optional rfl rfl (fun _ ht => ⟨nofun, understands_time (sound.time _ ht)⟩) ?_
  exact .nil

theorem canonical_toJson {m : ManagedFields} (sound : m.IsSound) :
    m.toJson.canonical = m.toJson := by
  have fields (v : Value) (hv : m.fieldsV1 = some v) : v.canonical = v := (sound.fields v hv).2.1
  exact Value.canonical_ofFields (by simp only [List.map_cons, List.map_nil]; decide +kernel)
    (by simpa [Time.toJson] using fields)

end ManagedFields

namespace ObjectMeta

structure IsSound (m : ObjectMeta) : Prop where
  created    : ∀ t ∈ m.creationTimestamp, t.IsSound
  deleted    : ∀ t ∈ m.deletionTimestamp, t.IsSound
  grace      : ∀ i ∈ m.deletionGracePeriodSeconds, IsInt64 i
  generation : ∀ i ∈ m.generation, IsInt64 i
  managed    : ∀ ms ∈ m.managedFields, ∀ f ∈ ms, f.IsSound

theorem understands_toJson {m : ObjectMeta} (sound : m.IsSound) :
    Understands 126 ObjectMeta.reader m.toJson m := by
  refine understands_of_object (understands_members ?_) fun _ _ _ _ _ => rfl
  refine .optional rfl rfl (fun _ _ => ⟨nofun, understands_textDict⟩) ?_
  refine .optional rfl rfl (fun _ ht => ⟨nofun, understands_time (sound.created _ ht)⟩) ?_
  refine .optional rfl rfl (fun _ hi => ⟨nofun, understands_int64 (sound.grace _ hi)⟩) ?_
  refine .optional rfl rfl (fun _ ht => ⟨nofun, understands_time (sound.deleted _ ht)⟩) ?_
  refine .optional rfl rfl
    (fun _ _ => ⟨nofun, understands_list fun _ _ => understands_string⟩) ?_
  refine .optional rfl rfl (fun _ _ => ⟨nofun, understands_string⟩) ?_
  refine .optional rfl rfl (fun _ hi => ⟨nofun, understands_int64 (sound.generation _ hi)⟩) ?_
  refine .optional rfl rfl (fun _ _ => ⟨nofun, understands_textDict⟩) ?_
  refine .optional rfl rfl (fun _ hm => ⟨nofun, understands_list fun _ hf =>
    ManagedFields.understands_toJson (sound.managed _ hm _ hf)⟩) ?_
  refine .optional rfl rfl (fun _ _ => ⟨nofun, understands_string⟩) ?_
  refine .optional rfl rfl (fun _ _ => ⟨nofun, understands_string⟩) ?_
  refine .optional rfl rfl
    (fun _ _ => ⟨nofun, understands_list fun _ _ => OwnerReference.understands_toJson⟩) ?_
  refine .optional rfl rfl (fun _ _ => ⟨nofun, understands_string⟩) ?_
  refine .optional rfl rfl (fun _ _ => ⟨nofun, understands_string⟩) ?_
  refine .optional rfl rfl (fun _ _ => ⟨nofun, understands_string⟩) ?_
  exact .nil

theorem canonical_toJson {m : ObjectMeta} (sound : m.IsSound) :
    m.toJson.canonical = m.toJson := by
  have managed (ms : List ManagedFields) (h : m.managedFields = some ms) :
      (Value.list (ms.map ManagedFields.toJson)).canonical =
        .list (ms.map ManagedFields.toJson) :=
    Value.canonical_list fun f hf => ManagedFields.canonical_toJson (sound.managed ms h f hf)
  refine Value.canonical_ofFields (by simp only [List.map_cons, List.map_nil]; decide +kernel) ?_
  simpa [Time.toJson, Value.canonical_list, OwnerReference.canonical_toJson] using managed

end ObjectMeta

namespace Secret

theorem understands_bytes {bs : Bytes} :
    Understands depth bytes (.string (Text.Base64.text bs)) bs := by
  refine understands_bind_pure (understands_optional nofun (understands_stringWith ?_)) rfl
  rw [Text.Base64.decode_text]

theorem understands_constant {s : String} : Understands depth (constant s) (.string s) () := by
  refine ⟨.string, fun _ spelt rest room size free => ?_⟩
  have read := understands_string.reads _ spelt rest room size free
  show EStateM.bind Reader.string _ _ = _
  rw [EStateM.bind, read]
  dsimp only
  rw [if_neg (not_not_intro rfl)]
  rfl

-- The members of a secret in the order of their names.
def members (s : Secret) : List (String × Option Value) := [
  ("apiVersion", some (.string apiVersion)),
  ("data", s.data.map (.ofDict fun b => .string (Text.Base64.text b))),
  ("immutable", s.immutable.map .boolean),
  ("kind", some (.string kind)),
  ("metadata", some s.metadata.toJson),
  ("stringData", s.stringData.map (.ofDict .string)),
  ("type", s.type.map .string)]

theorem understands_members {s : Secret} (sound : s.metadata.IsSound) :
    Understands 127 Secret.reader (.ofFields s.members) s := by
  refine understands_of_object (Json.understands_members ?_) fun _ _ _ _ _ => rfl
  refine .given (enters_bind understands_constant rfl) ?_
  refine .optional rfl rfl (fun _ _ => ⟨nofun, understands_dict fun _ _ => understands_bytes⟩) ?_
  refine .optional rfl rfl (fun _ _ => ⟨nofun, understands_boolean⟩) ?_
  refine .given (enters_bind understands_constant rfl) ?_
  refine .given (enters_bind
    (understands_optional nofun (ObjectMeta.understands_toJson sound)) rfl) ?_
  refine .optional rfl rfl (fun _ _ => ⟨nofun, understands_textDict⟩) ?_
  refine .optional rfl rfl (fun _ _ => ⟨nofun, understands_string⟩) ?_
  exact .nil

-- Its members as they are sent.
def sent (s : Secret) : List (String × Option Value) := [
  ("apiVersion", some (.string apiVersion)),
  ("kind", some (.string kind)),
  ("metadata", some s.metadata.toJson),
  ("data", s.data.map (.ofDict fun b => .string (Text.Base64.text b))),
  ("immutable", s.immutable.map .boolean),
  ("stringData", s.stringData.map (.ofDict .string)),
  ("type", s.type.map .string)]

theorem toJson_eq {s : Secret} : s.toJson = .ofFields s.sent :=
  rfl

theorem distinct_sent {s : Secret} : Value.Distinct s.sent := by
  simp [Value.Distinct, sent]

theorem sent_perm {s : Secret} : s.sent.Perm s.members :=
  .cons _ (List.perm_append_comm_assoc [_, _] [_, _] _)

theorem canonical_toJson {s : Secret} (sound : s.metadata.IsSound) :
    s.toJson.canonical = .ofFields s.members := by
  rw [toJson_eq, Value.canonical_ofFields_perm sent_perm distinct_sent]
  refine Value.canonical_ofFields
    (by simp only [members, List.map_cons, List.map_nil]; decide +kernel) ?_
  simp [members, -Bool.exists_bool, -Bool.forall_bool, ObjectMeta.canonical_toJson sound]

-- What is written is read again.
theorem read_canonical {s : Secret} (sound : s.metadata.IsSound) :
    Json.read Secret.reader (bytesOf s.toJson.canonical.write) = .ok s := by
  rw [canonical_toJson sound]
  exact read_of_understands (understands_members sound) (by decide)

end Secret

end ArtifactSync.Kubernetes

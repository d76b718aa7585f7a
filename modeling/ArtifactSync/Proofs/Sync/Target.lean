import ArtifactSync.Proofs.Sync.Versions
import ArtifactSync.Sync.Target

namespace ArtifactSync.Target

open Kubernetes (Secret)

variable {o : OciSecret} {s : Secret} {content : Content}

-- The secret is controlled by the desired state, and by nothing else.
def OwnedBy (o : OciSecret) (s : Secret) : Prop :=
  ∃ reference, ownerReference? o = some reference ∧ s.metadata.ownerReferences = some [reference]

-- A target as it is made: nothing is in it.
structure Blank (o : OciSecret) (s : Secret) : Prop where
  key        : Store.key s = o.spec.target.text
  data       : s.data = none
  stringData : s.stringData = none
  digest     : lastDigest? s = some sentinel
  owned      : OwnedBy o s

theorem blank_of_create (h : create o = .ok s) : Blank o s := by
  unfold create at h
  split at h
  case h_1 => cases h
  case h_2 reference hr =>
    cases h
    exact {
      key        := rfl
      data       := rfl
      stringData := rfl
      digest     := rfl
      owned      := ⟨reference, hr, rfl⟩
    }

@[simp]
theorem key_fill : Store.key (fill s content) = Store.key s := rfl

@[simp]
theorem lastDigest?_fill : lastDigest? (fill s content) = some content.digest := by
  simp [lastDigest?, fill]

@[simp]
theorem storedFiles_fill : storedFiles (fill s content) = content.files.size := rfl

@[simp]
theorem lastDigest?_stamped {v : String} :
    lastDigest? (SecretStore.stamped s v) = lastDigest? s := rfl

@[simp]
theorem storedFiles_stamped {v : String} :
    storedFiles (SecretStore.stamped s v) = storedFiles s := rfl

-- Filling a target again with the same content makes no difference.
theorem fill_fill : fill (fill s content) content = fill s content := by
  simp [fill, Dict.insert_insert_self]

-- A target is left alone if it is of this digest and of as many files as are named.
theorem needsSync_eq_false_iff {current : Digest} {allow : List String} :
    needsSync s current allow = false ↔
      lastDigest? s = some current ∧ (allow = [] ∨ storedFiles s = allow.length) := by
  cases allow <;> simp [needsSync]

-- Nothing is in a target that was just made, so it is left alone exactly if no list asks for
-- anything and the artifact has the digest that stands for none.
theorem Blank.needsSync_eq_false_iff {current : Digest} {allow : List String} (b : Blank o s) :
    needsSync s current allow = false ↔ current = sentinel ∧ allow = [] := by
  have empty : storedFiles s = 0 := by simp [storedFiles, b.data]
  rw [Target.needsSync_eq_false_iff, b.digest, empty, Option.some_inj, eq_comm (a := sentinel),
    eq_comm (a := 0), List.length_eq_zero_iff, or_self]

-- What version it is stored at is no part of what a target looks like.
theorem Blank.stamped {v : String} (b : Blank o s) : Blank o (SecretStore.stamped s v) where
  key        := b.key
  data       := b.data
  stringData := b.stringData
  digest     := b.digest
  owned      := b.owned

-- The new object is the old one with other files in it, and with another version.
structure Refilled (old : Secret) (content : Content) (v : String) (new : Secret) : Prop where
  data        : new.data = some content.files
  stringData  : new.stringData = none
  digest      : lastDigest? new = some content.digest
  annotations : ∀ k, k ≠ digestAnnotation →
    new.metadata.annotations.bind (·.find? k) = old.metadata.annotations.bind (·.find? k)
  version     : new.metadata.resourceVersion = some v
  metadata    : { new.metadata with
    annotations     := old.metadata.annotations
    resourceVersion := old.metadata.resourceVersion } = old.metadata
  immutable   : new.immutable = old.immutable
  type        : new.type = old.type

theorem refilled_fill {v : String} :
    Refilled s content v (SecretStore.stamped (fill s content) v) where
  data        := rfl
  stringData  := rfl
  digest      := lastDigest?_fill
  annotations k hk := by
    cases h : s.metadata.annotations <;>
      simp [SecretStore.stamped, fill, h, Dict.find?_insert, hk]
  version     := rfl
  metadata    := rfl
  immutable   := rfl
  type        := rfl

end ArtifactSync.Target

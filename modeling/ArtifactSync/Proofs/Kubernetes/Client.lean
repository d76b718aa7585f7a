import ArtifactSync.Kubernetes.SecretAccess
import ArtifactSync.Proofs.Kubernetes.Server

namespace ArtifactSync.Kubernetes

open Json
open Text.Utf8 (encode)

variable {α : Type} {address name : String} {r r' : SecretRef} {reader : Reader α} {a : α}
  {v : Value} {q : Reply}

-- A text that is one part of a path as it stands. A percent sign would stand for something else.
def IsSegment (s : String) : Prop :=
  s ≠ "" ∧ ∀ c ∈ s.toList, Client.isPathCharacter c = true ∧ c ≠ '/' ∧ c ≠ '%'

instance {s : String} : Decidable (IsSegment s) :=
  @instDecidableAnd (s ≠ "") _ inferInstance (List.decidableBAll _ s.toList)

def specPath (name : String) : String :=
  SecretAccess.specCollection ++ "/" ++ name

def secretPath (r : SecretRef) : String :=
  SecretAccess.collection r.namespace ++ "/" ++ r.name

namespace Client

def FitsAddress (address : String) : Prop :=
  address.utf8ByteSize < 0xFFFE

instance : Decidable (FitsAddress address) :=
  inferInstanceAs (Decidable (_ < _))

theorem continues_path {c : Char} (allowed : isPathCharacter c = true) :
    decide (c ≠ '?' ∧ c ≠ '#') = true := by
  rw [decide_eq_true_eq]
  constructor <;> rintro rfl <;> exact absurd allowed (by decide)

theorem path_ok (plain : ∀ c ∈ address.toList, isPathCharacter c = true)
    (short : FitsAddress address) : path (address ++ "?") = .ok address := by
  have front : (address.toList ++ ['?']).takeWhile (fun c => c ≠ '?' ∧ c ≠ '#') =
      address.toList := by
    rw [List.takeWhile_append_of_pos fun c hc => continues_path (plain c hc)]
    simp
  have size : ¬0xFFFE < (address ++ "?").utf8ByteSize := by
    rw [String.utf8ByteSize_append]
    exact Nat.not_lt.2 short
  have behind : (address.toList ++ ['?']).drop address.toList.length = ['?'] := List.drop_left
  have marked : (address ++ "?").toList = address.toList ++ ['?'] := String.toList_append
  have allowed : address.toList.all isPathCharacter = true := List.all_eq_true.2 plain
  unfold path
  dsimp only
  rw [if_neg size, marked, front, behind, allowed, String.ofList_toList]
  rfl

-- An address without a query.
theorem path_eq_self (plain : ∀ c ∈ address.toList, isPathCharacter c = true)
    (short : FitsAddress address) : path address = .ok address := by
  have front : address.toList.takeWhile (fun c => c ≠ '?' ∧ c ≠ '#') = address.toList :=
    List.takeWhile_eq_self_iff.2 fun c hc => continues_path (plain c hc)
  have allowed : address.toList.all isPathCharacter = true := List.all_eq_true.2 plain
  unfold path
  dsimp only
  rw [if_neg (Nat.not_lt.2 (Nat.le_of_lt short)), front, List.drop_length, allowed,
    String.ofList_toList]
  rfl

theorem objectRequest_ok {method : Method} {collection : String} {body : Option Value}
    (segment : IsSegment name)
    (plain : ∀ c ∈ collection.toList, isPathCharacter c = true)
    (short : FitsAddress (collection ++ "/" ++ name)) :
    objectRequest method collection name body =
      .ok { method, path := collection ++ "/" ++ name, body } := by
  have named : ¬name.isEmpty = true := fun none => segment.1 (String.isEmpty_iff.1 none)
  have all : ∀ c ∈ (collection ++ "/" ++ name).toList, isPathCharacter c = true := by
    intro c hc
    rw [String.toList_append, String.toList_append, List.mem_append, List.mem_append] at hc
    rcases hc with (hc | hc) | hc
    · exact plain c hc
    · cases List.mem_singleton.1 hc
      rfl
    · exact (segment.2 c hc).1
  rw [objectRequest, if_neg named, request, path_ok all short]
  rfl

theorem bodyText_ok {s : String} {status : Http.StatusCode} :
    bodyText ⟨status, bytesOf s⟩ = .ok s := by
  unfold bodyText bytesOf
  rw [Text.Utf8.decode_encode]
  exact congrArg Except.ok String.ofList_toList

-- An object that is sent is understood as it is read.
theorem understand_ok {status : Nat} (success : (Http.StatusCode.mk status).isError = false)
    (h : Json.read reader (bytesOf v.write) = .ok a) :
    understand reader (Server.json status v) = .ok a := by
  unfold understand Server.json
  rw [bodyText_ok]
  simp only [bind, Except.bind, success]
  rw [h]
  rfl

theorem understand_refusal {code : Nat} {reason message : String}
    (refused : (Http.StatusCode.mk code).isError = true) :
    understand reader (Server.refusal code reason message) =
      .error (.api ⟨"Failure", message, reason, code⟩) := by
  have read := Server.read_status reason message refused
  rw [Server.refusal_eq]
  unfold understand Server.json
  rw [bodyText_ok]
  simp only [bind, Except.bind, refused, read]
  rfl

end Client

-- A secret that can be asked for: its namespace and its name are parts of a path, and the whole
-- address is not too long.
structure Addressable (r : SecretRef) : Prop where
  space : IsSegment r.namespace
  name  : IsSegment r.name
  short : Client.FitsAddress (secretPath r)

theorem isPathCharacter_collection {space : String} (segment : IsSegment space) :
    ∀ c ∈ (SecretAccess.collection space).toList, Client.isPathCharacter c = true := by
  have front : "/api/v1/namespaces/".toList.all Client.isPathCharacter = true := by decide
  have back : "/secrets".toList.all Client.isPathCharacter = true := by decide
  intro c hc
  unfold SecretAccess.collection at hc
  simp only [String.toList_append, List.mem_append] at hc
  rcases hc with (hc | hc) | hc
  · exact List.all_eq_true.1 front c hc
  · exact (segment.2 c hc).1
  · exact List.all_eq_true.1 back c hc

theorem cut_unique {a a' b b' : List Char} (ha : '/' ∉ a) (ha' : '/' ∉ a')
    (same : a ++ '/' :: b = a' ++ '/' :: b') : a = a' ∧ b = b' := by
  have cut : Text.cut? '/' (a ++ '/' :: b) = some (a, b) := Text.cut?_eq_some_iff.2 ⟨rfl, ha⟩
  rw [same, Text.cut?_eq_some_iff.2 ⟨rfl, ha'⟩, Option.some.injEq, Prod.mk.injEq] at cut
  exact ⟨cut.1.symm, cut.2.symm⟩

theorem IsSegment.not_mem {s : String} (segment : IsSegment s) : '/' ∉ s.toList :=
  fun hc => (segment.2 _ hc).2.1 rfl

theorem toList_text : r.text.toList = r.namespace.toList ++ '/' :: r.name.toList := by
  simp [SecretRef.text]

theorem toList_secretPath : (secretPath r).toList = "/api/v1/namespaces/".toList ++
    (r.namespace.toList ++ '/' :: ("secrets/".toList ++ r.name.toList)) := by
  unfold secretPath SecretAccess.collection
  generalize r.namespace = space
  generalize r.name = name
  simp

-- Each secret is kept in a place of its own.
theorem secretPath_inj (h : Addressable r) (h' : Addressable r') :
    secretPath r = secretPath r' ↔ r.text = r'.text := by
  rw [← String.toList_inj, ← String.toList_inj, toList_text, toList_text, toList_secretPath,
    toList_secretPath]
  constructor
  case mp  =>
    intro same
    have ⟨spaces, names⟩ := cut_unique h.space.not_mem h'.space.not_mem
      (List.append_cancel_left same)
    rw [spaces, List.append_cancel_left names]
  case mpr =>
    intro same
    have ⟨spaces, names⟩ := cut_unique h.space.not_mem h'.space.not_mem same
    rw [spaces, names]

theorem specPath_ne_secretPath : specPath name ≠ secretPath r := by
  intro same
  have lists := congrArg String.toList same
  rw [toList_secretPath] at lists
  simp [specPath, SecretAccess.specCollection] at lists

end ArtifactSync.Kubernetes

import ArtifactSync.Proofs.Registry.Loading
import Mathlib.Data.List.Perm.Basic

namespace ArtifactSync.Registry

open CredentialStore
open Text.Utf8 (encode_append encode_cons)

namespace AuthEntry

variable {user password before after : String}

-- Joined and in base 64, with what there may be around it.
def inBase64 (before user password after : String) : AuthEntry :=
  { auth := some (before ++ Text.Base64.text (joined user password) ++ after) }

-- Given apart, beside what may be there as well.
def inFields (user password : String) (auth : Option String) : AuthEntry :=
  { auth, username := some user, password := some password }

theorem basic_inFields {auth : Option String} :
    (inFields user password auth).basic = .ok (user, password) :=
  basic_ok_iff.2 (.apart rfl rfl)

theorem joined_ne_nil : joined user password ≠ [] := by
  rw [joined_eq, encode_append, encode_cons]
  have colon : String.utf8EncodeChar ':' ≠ [] := by decide
  simp [colon]

theorem basic_inBase64 (plain : ':' ∉ user.toList) (front : ∀ c ∈ before.toList, Text.isBlank c)
    (back : ∀ c ∈ after.toList, Text.isBlank c) :
    (inBase64 before user password after).basic = .ok (user, password) := by
  have trimmed : Text.trim (before ++ Text.Base64.text (joined user password) ++ after) =
      Text.Base64.text (joined user password) := by
    rw [Text.trim, String.toList_append, String.toList_append,
      Text.Base64.isPrintable_text.trimChars_between front back, String.ofList_toList]
  have filled : before ++ Text.Base64.text (joined user password) ++ after ≠ "" := by
    intro none
    rw [none] at trimmed
    exact Text.Base64.text_ne_empty joined_ne_nil trimmed.symm
  exact basic_ok_iff.2 (.joined (.inl rfl) rfl filled trimmed plain)

end AuthEntry

namespace CredentialStore

variable {key user password : String} {e e₁ e₂ : AuthEntry} {text text₁ text₂ : Bytes}
  {s : CredentialStore} {auths auths₁ auths₂ : Dict AuthEntry} {order : List String}
  {r : Except Fault CredentialStore} {es es₁ es₂ : List (String × AuthEntry)}

-- Entries under one key that come to the same.
def SameUse (e₁ e₂ : String × AuthEntry) : Prop :=
  e₁.1 = e₂.1 ∧ e₁.2.basic = e₂.2.basic

theorem SameUse.refl (e : String × AuthEntry) : SameUse e e :=
  ⟨rfl, rfl⟩

theorem keys_eq_of_sameUse (same : List.Forall₂ SameUse es₁ es₂) :
    es₁.map (·.1) = es₂.map (·.1) := by
  induction same with
  | nil            => rfl
  | cons here _ hi => rw [List.map_cons, List.map_cons, here.1, hi]

theorem addAll_eq_of_sameUse (same : List.Forall₂ SameUse es₁ es₂) :
    s.addAll es₁ = s.addAll es₂ := by
  induction same generalizing s with
  | nil                              => rfl
  | @cons e₁ e₂ es₁ es₂ here rest hi =>
    have added : s.add e₁.1 e₁.2 = s.add e₂.1 e₂.2 := by rw [add, add, here.1, here.2]
    unfold addAll at *
    rw [List.foldlM_cons, List.foldlM_cons, added]
    exact bind_congr fun _ => hi

-- And so do configs, in whatever order their keys are taken.
theorem takenAs_of_sameUse (read₁ : Json.read record.reader text₁ = .ok auths₁)
    (read₂ : Json.read record.reader text₂ = .ok auths₂)
    (same : List.Forall₂ SameUse auths₁.entries auths₂.entries) (t : TakenAs text₁ order r) :
    TakenAs text₂ order r := by
  have ⟨es₁, p₁, keys, made⟩ := (takenAs_iff_of_read read₁).1 t
  have ⟨es₂, alike, p₂⟩ := List.perm_comp_forall₂ p₁ same
  rw [takenAs_iff_of_read read₂]
  exact ⟨es₂, p₂, keys_eq_of_sameUse alike ▸ keys, (addAll_eq_of_sameUse alike).symm.trans made⟩

theorem sameUse_put (same : e₁.basic = e₂.basic) :
    List.Forall₂ SameUse (Dict.put key e₁ es) (Dict.put key e₂ es) := by
  have rest (es : List (String × AuthEntry)) : List.Forall₂ SameUse es es :=
    List.forall₂_same.2 fun e _ => .refl e
  induction es with
  | nil          => exact .cons ⟨rfl, same⟩ .nil
  | cons e es hi =>
    rw [Dict.put, Dict.put]
    split
    case isTrue  => exact .cons ⟨rfl, same⟩ (rest _)
    case isFalse =>
      split
      case isTrue  => exact .cons ⟨rfl, same⟩ (rest _)
      case isFalse => exact .cons (.refl e) hi

-- The store of one credential.
def only (key user password : String) : CredentialStore :=
  ⟨Dict.insert ∅ (normalizeHost key) (user, password)⟩

theorem login_only (registry : String) : (only key user password).login registry =
    if normalizeHost registry = normalizeHost key then .basic user password else .anonymous := by
  rw [login, only, Dict.find?_insert, Dict.find?_empty]
  by_cases same : normalizeHost registry = normalizeHost key
  case pos => rw [if_pos same, if_pos same]
  case neg => rw [if_neg same, if_neg same]

theorem eq_only_of_takenAs (said : e.basic = .ok (user, password))
    (read : Json.read record.reader text = .ok (.singleton key e)) (t : TakenAs text order r) :
    r = .ok (only key user password) := by
  have ⟨es, p, _, made⟩ := (takenAs_iff_of_read read).1 t
  rw [← made, List.perm_singleton.1 p]
  exact addAll_cons_ok_iff.2 ⟨_, add_ok_iff.2 ⟨_, said, rfl⟩, addAll_nil_ok_iff.2 rfl⟩

-- All configs with this one entry, however they are written, are taken for this store.
def Makes (key : String) (e : AuthEntry) (s : CredentialStore) : Prop :=
  ∀ text, Json.read record.reader text = .ok (.singleton key e) →
    ofDockerConfig text = .ok s ∧ ∀ order r, TakenAs text order r → r = .ok s

theorem makes_only (said : e.basic = .ok (user, password)) :
    Makes key e (only key user password) := by
  intro text read
  have ⟨_, t⟩ : ∃ order, TakenAs text order (ofDockerConfig text) := takenAs_ofDockerConfig
  exact ⟨eq_only_of_takenAs said read t, fun _ _ => eq_only_of_takenAs said read⟩

-- Beside any other entries, the one for a key can be written as the other.
def Interchangeable (e₁ e₂ : AuthEntry) : Prop :=
  ∀ key auths text₁ text₂, Json.read record.reader text₁ = .ok (Dict.insert auths key e₁) →
    Json.read record.reader text₂ = .ok (Dict.insert auths key e₂) →
    ∀ order r, TakenAs text₁ order r ↔ TakenAs text₂ order r

theorem interchangeable_of_basic_eq (same : e₁.basic = e₂.basic) : Interchangeable e₁ e₂ := by
  intro key auths text₁ text₂ read₁ read₂ order r
  constructor
  case mp  => exact takenAs_of_sameUse read₁ read₂ (sameUse_put same)
  case mpr => exact takenAs_of_sameUse read₂ read₁ (sameUse_put same.symm)

end CredentialStore

open AuthEntry (inBase64 inFields basic_inBase64 basic_inFields)

-- Given apart, user and password count more than anything joined. Every config can be written.
theorem login_of_notation (key user password before after : String) (plain : ':' ∉ user.toList)
    (front : ∀ c ∈ before.toList, Text.isBlank c) (back : ∀ c ∈ after.toList, Text.isBlank c) :
    (∀ auths, Json.read record.reader (written auths) = .ok auths) ∧
    (∃ s : CredentialStore,
      (∀ registry, s.login registry =
        if normalizeHost registry = normalizeHost key then .basic user password else .anonymous) ∧
      Makes key (inBase64 before user password after) s ∧
      ∀ auth, Makes key (inFields user password auth) s) ∧
    ∀ auth, Interchangeable (inBase64 before user password after)
      (inFields user password auth) := by
  have joined : (inBase64 before user password after).basic = .ok (user, password) :=
    basic_inBase64 plain front back
  refine ⟨read_written, ⟨only key user password, login_only, makes_only joined, ?_⟩, ?_⟩
  case refine_1 => exact fun auth => makes_only basic_inFields
  case refine_2 => exact fun auth => interchangeable_of_basic_eq (joined.trans basic_inFields.symm)

-- A password with a colon and a line break, and an address as the key.
namespace Noted

def key : String := "https://Registry.io/v2/"

def config (e : AuthEntry) : Bytes :=
  written (.singleton key e)

theorem hosts_eq : normalizeHost "registry.io" = normalizeHost key ∧
    normalizeHost "ghcr.io" ≠ normalizeHost key := by
  decide +kernel

end Noted

theorem login_of_notation_sample : ∃ s,
    ofDockerConfig (Noted.config (inBase64 " \n" "ü" "pa:ss\n" "\t")) = .ok s ∧
    ofDockerConfig (Noted.config (inFields "ü" "pa:ss\n" none)) = .ok s ∧
    ofDockerConfig (Noted.config (inFields "ü" "pa:ss\n" (some "?"))) = .ok s ∧
    s.login "registry.io" = .basic "ü" "pa:ss\n" ∧ s.login "ghcr.io" = .anonymous := by
  have ⟨read, ⟨s, login, joined, apart⟩, _⟩ :=
    login_of_notation Noted.key "ü" "pa:ss\n" " \n" "\t" (by decide)
      (List.all_eq_true.1 (by decide)) (List.all_eq_true.1 (by decide))
  have ⟨same, other⟩ := Noted.hosts_eq
  refine ⟨s, (joined _ (read _)).1, (apart none _ (read _)).1,
    (apart (some "?") _ (read _)).1, ?_, ?_⟩
  case refine_1 => rw [login, if_pos same]
  case refine_2 => rw [login, if_neg other]

end ArtifactSync.Registry

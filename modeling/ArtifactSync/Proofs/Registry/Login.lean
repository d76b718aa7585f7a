import ArtifactSync.Proofs.Registry.Address
import ArtifactSync.Proofs.Registry.Credentials

namespace ArtifactSync.Registry

open CredentialStore

variable {text : Bytes} {registry address : String} {order : List String} {s : CredentialStore}
  {es : List (String × AuthEntry)} {client : Client} {options : Options}

-- What the entries have to say about a registry.
inductive Speaks (es : List (String × AuthEntry)) (registry : String) : Login → Prop
  | anonymous : (entriesFor (normalizeHost registry) es = []) → Speaks es registry .anonymous
  | basic {e : String × AuthEntry} {user password : String} :
    (e ∈ entriesFor (normalizeHost registry) es) → e.2.basic = .ok (user, password) →
    Speaks es registry (.basic user password)

-- And what a config has, whatever order its entries are taken in.
def Grants (text : Bytes) (registry : String) (login : Login) : Prop :=
  ∃ auths, Json.read record.reader text = .ok auths ∧ Speaks auths.entries registry login

theorem speaks_login (h : empty.addAll es = .ok s) : Speaks es registry (s.login registry) := by
  unfold login
  cases hf : s.entries.find? (normalizeHost registry) with
  | none       => exact .anonymous ((find?_addAll_eq_none_iff h).1 hf).1
  | some basic =>
    cases find?_addAll h hf with
    | inr none  => cases none
    | inl there =>
      have ⟨e, he, said⟩ := there
      exact .basic he said

theorem Speaks.of_perm {es' : List (String × AuthEntry)} {login : Login}
    (h : Speaks es registry login) (p : es.Perm es') : Speaks es' registry login := by
  have p : (entriesFor (normalizeHost registry) es).Perm _ := p.filter _
  cases h with
  | anonymous none => exact .anonymous (none ▸ p).nil_eq.symm
  | basic he said  => exact .basic (p.mem_iff.1 he) said

theorem grants_of_takenAs (t : TakenAs text order (.ok s)) :
    Grants text registry (s.login registry) := by
  have ⟨auths, es, read, p, _, taken⟩ := takenAs_ok_iff.1 t
  exact ⟨auths, read, (speaks_login taken).of_perm p⟩

theorem grants_of_connect (nonempty : text ≠ [])
    (h : Client.connect address (some ⟨text⟩) options = .ok client) :
    Grants text client.address.registry client.login := by
  have ⟨_, login⟩ := Client.connect_ok h
  have kept : (some ⟨text⟩ : Option PullCredential).filter (!·.isEmpty) = some ⟨text⟩ := by
    simp [PullCredential.isEmpty, nonempty]
  unfold Client.loginFor at login
  rw [kept] at login
  have ⟨order, taken⟩ : ∃ order, TakenAs text order (CredentialStore.ofDockerConfig text) :=
    takenAs_ofDockerConfig
  dsimp only at login
  split at login
  case h_1 store hs =>
    rw [hs] at taken
    rw [← Except.ok.inj login]
    exact grants_of_takenAs taken
  case h_2 => cases login

theorem anonymous_of_connect (h : Client.connect address none options = .ok client) :
    client.login = .anonymous := by
  have ⟨_, login⟩ := Client.connect_ok h
  exact (Except.ok.inj login).symm

end ArtifactSync.Registry

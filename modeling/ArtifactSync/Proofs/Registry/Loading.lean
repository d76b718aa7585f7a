import ArtifactSync.Proofs.Registry.Login
import ArtifactSync.Proofs.Registry.Written
import ArtifactSync.Proofs.Text.Base64

namespace ArtifactSync.Registry

open CredentialStore
open Text.Utf8 (encode_append encode_cons)

namespace AuthEntry

variable {e : AuthEntry} {encoded user password : String}

-- User and password, a colon between them, as they are sent.
def joined (user password : String) : Bytes :=
  bytesOf (user ++ ":" ++ password)

-- What an entry says: the two given apart, which count more, or else joined and in base 64.
inductive Says (e : AuthEntry) (user password : String) : Prop
  | apart : e.username = some user → e.password = some password → Says e user password
  | joined {encoded : String} : (e.username = none ∨ e.password = none) → e.auth = some encoded →
    encoded ≠ "" → Text.trim encoded = Text.Base64.text (joined user password) →
    ':' ∉ user.toList → Says e user password

theorem joined_eq : joined user password =
    Text.Utf8.encode (user.toList ++ ':' :: password.toList) := by
  rw [joined, bytesOf, String.toList_append, String.toList_append, List.append_assoc]
  rfl

theorem decodeAuth_ok_iff : decodeAuth encoded = .ok (user, password) ↔
    Text.trim encoded = Text.Base64.text (joined user password) ∧ ':' ∉ user.toList := by
  constructor
  case mp  =>
    intro h
    unfold decodeAuth at h
    split at h
    case h_1 => cases h
    case h_2 bytes hb =>
      split at h
      case h_1 => cases h
      case h_2 cs hc =>
        split at h
        case h_2 => cases h
        case h_1 front back cut =>
          cases h
          have ⟨whole, plain⟩ := Text.cut?_eq_some_iff.1 cut
          rw [String.toList_ofList]
          refine ⟨bytesOf_inj ?_, plain⟩
          rw [Text.Base64.bytesOf_text, Text.Base64.decode_eq_ok_iff.1 hb,
            Text.Utf8.decode_eq_ok_iff.1 hc, whole, joined_eq, String.toList_ofList,
            String.toList_ofList]
  case mpr =>
    intro ⟨same, plain⟩
    have cut : Text.cut? ':' (user.toList ++ ':' :: password.toList) =
        some (user.toList, password.toList) := Text.cut?_eq_some_iff.2 ⟨rfl, plain⟩
    unfold decodeAuth
    rw [same, Text.Base64.decode_text, joined_eq]
    dsimp only
    rw [Text.Utf8.decode_encode]
    dsimp only
    rw [cut]
    simp only [String.ofList_toList]

-- An entry can be used exactly if it says something, and then it is used for that.
theorem basic_ok_iff : e.basic = .ok (user, password) ↔ e.Says user password := by
  constructor
  case mp  =>
    intro h
    unfold basic at h
    split at h
    case h_1 u p hu hp =>
      cases h
      exact .apart hu hp
    case h_2 lacking =>
      split at h
      case h_2 => cases h
      case h_1 encoded given =>
        have ⟨there, filled⟩ := Option.filter_eq_some_iff.1 given
        have ⟨same, plain⟩ := decodeAuth_ok_iff.1 h
        refine .joined ?_ there (by simpa using filled) same plain
        cases hu : e.username with
        | none   => exact .inl rfl
        | some u =>
          cases hp : e.password with
          | none   => exact .inr rfl
          | some p => exact (lacking u p hu hp).elim
  case mpr =>
    intro h
    unfold basic
    cases h with
    | apart hu hp =>
      rw [hu, hp]
    | joined lacking there filled same plain =>
      have given : e.auth.filter (!·.isEmpty) = some _ :=
        Option.filter_eq_some_iff.2 ⟨there, by simpa using filled⟩
      rw [given]
      split
      case h_1 hu hp => simp [hu, hp] at lacking
      case h_2       => exact decodeAuth_ok_iff.2 ⟨same, plain⟩

theorem usable_iff : e.Usable ↔ ∃ user password, e.Says user password := by
  constructor
  case mp  => exact fun ⟨(user, password), h⟩ => ⟨user, password, basic_ok_iff.1 h⟩
  case mpr => exact fun ⟨user, password, h⟩ => ⟨(user, password), basic_ok_iff.2 h⟩

end AuthEntry

namespace CredentialStore

variable {text : Bytes} {s s' : CredentialStore} {host registry user password : String}
  {e : String × AuthEntry} {es : List (String × AuthEntry)} {order : List String}

-- No two keys stand for one host.
def HostsDiffer (es : List (String × AuthEntry)) : Prop :=
  es.Pairwise fun e₁ e₂ => normalizeHost e₁.1 ≠ normalizeHost e₂.1

instance : Decidable (HostsDiffer es) :=
  inferInstanceAs (Decidable (es.Pairwise _))

-- So the entries for a host are one at most.
theorem HostsDiffer.unanimous (differ : HostsDiffer es) : Unanimous host es := by
  have same : (entriesFor host es).Pairwise Eq := by
    refine (differ.filter _).imp_of_mem fun {e₁ e₂} he₁ he₂ apart => ?_
    have host₁ := of_decide_eq_true (List.mem_filter.1 he₁).2
    have host₂ := of_decide_eq_true (List.mem_filter.1 he₂).2
    exact absurd (host₁.trans host₂.symm) apart
  intro e₁ he₁ e₂ he₂
  rw [same.forall_of_forall_of_flip (fun _ _ => rfl) (same.imp Eq.symm) he₁ he₂]

-- Every entry is kept as one of its own.
theorem size_addAll (h : s.addAll es = .ok s') (differ : HostsDiffer es)
    (fresh : ∀ e ∈ es, normalizeHost e.1 ∉ s.entries) : s'.size = s.size + es.length := by
  induction es generalizing s with
  | nil          => rw [← addAll_nil_ok_iff.1 h, List.length_nil, Nat.add_zero]
  | cons e es hi =>
    have ⟨s₁, ha, h⟩ := addAll_cons_ok_iff.1 h
    have ⟨said, _, hs⟩ := add_ok_iff.1 ha
    have ⟨apart, differ⟩ := List.pairwise_cons.1 differ
    have ⟨here, there⟩ := List.forall_mem_cons.1 fresh
    subst hs
    have others (e') (he' : e' ∈ es) :
        normalizeHost e'.1 ∉ s.entries.insert (normalizeHost e.1) said := by
      rw [Dict.mem_insert, not_or]
      exact ⟨(apart e' he').symm, there e' he'⟩
    rw [hi h differ others, size, Dict.size_insert here, List.length_cons, Nat.add_assoc,
      Nat.add_comm 1]
    rfl

theorem login_basic_iff (h : empty.addAll es = .ok s) (differ : HostsDiffer es) :
    s.login registry = .basic user password ↔
      ∃ e ∈ es, normalizeHost e.1 = normalizeHost registry ∧ e.2.Says user password := by
  constructor
  case mp  =>
    intro same
    have speaks : Speaks es registry (s.login registry) := speaks_login h
    rw [same] at speaks
    cases speaks with
    | basic he said =>
      have ⟨there, host⟩ := List.mem_filter.1 he
      exact ⟨_, there, of_decide_eq_true host, AuthEntry.basic_ok_iff.1 said⟩
  case mpr =>
    intro ⟨e, there, host, said⟩
    have he : e ∈ entriesFor (normalizeHost registry) es :=
      List.mem_filter.2 ⟨there, decide_eq_true host⟩
    exact login_of_find?
      (find?_addAll_of_unanimous h differ.unanimous he (AuthEntry.basic_ok_iff.2 said))

theorem login_anonymous_iff (h : empty.addAll es = .ok s) :
    s.login registry = .anonymous ↔ ∀ e ∈ es, normalizeHost e.1 ≠ normalizeHost registry := by
  have absent : (∀ e ∈ es, normalizeHost e.1 ≠ normalizeHost registry) ↔
      s.entries.find? (normalizeHost registry) = none := by
    rw [find?_addAll_eq_none_iff h, entriesFor, List.filter_eq_nil_iff]
    simp [empty]
  rw [absent, login]
  cases s.entries.find? (normalizeHost registry) <;> simp

theorem exists_ok_iff {r : Except Fault CredentialStore} (t : TakenAs text order r) :
    (∃ s, r = .ok s) ↔
      ∃ auths, Json.read record.reader text = .ok auths ∧ ∀ e ∈ auths.entries, e.2.Usable := by
  cases t with
  | malformed unread  =>
    simp [unread]
  | visited read p    =>
    rw [read]
    simp only [Except.ok.injEq, exists_eq_left', ← p.mem_iff]
    exact exists_addAll_iff

-- A store holds these entries and no others.
structure IsLoaded (auths : Dict AuthEntry) (s : CredentialStore) : Prop where
  size      : s.size = auths.size
  basic     : ∀ registry user password, s.login registry = .basic user password ↔
    ∃ e ∈ auths.entries, normalizeHost e.1 = normalizeHost registry ∧ e.2.Says user password
  anonymous : ∀ registry, s.login registry = .anonymous ↔
    ∀ e ∈ auths.entries, normalizeHost e.1 ≠ normalizeHost registry

theorem isLoaded_of_addAll {auths : Dict AuthEntry} (differ : HostsDiffer auths.entries)
    (p : es.Perm auths.entries) (h : empty.addAll es = .ok s) : IsLoaded auths s := by
  have differ : HostsDiffer es := (p.pairwise_iff fun apart => apart.symm).2 differ
  constructor
  case size      =>
    rw [size_addAll h differ fun _ _ => List.not_mem_nil, Dict.size, ← p.length_eq]
    exact Nat.zero_add _
  case basic     =>
    intro registry user password
    rw [login_basic_iff h differ]
    simp only [p.mem_iff]
  case anonymous =>
    intro registry
    rw [login_anonymous_iff h]
    simp only [p.mem_iff]

end CredentialStore

-- One of all the orders is the one of the keys, and every config can be written.
theorem login_of_config (text : Bytes) :
    (∀ auths, Json.read record.reader (written auths) = .ok auths) ∧
    (∃ order, TakenAs text order (ofDockerConfig text)) ∧
    ∀ order r, TakenAs text order r →
      ((∃ s, r = .ok s) ↔ ∃ auths, Json.read record.reader text = .ok auths ∧
        ∀ e ∈ auths.entries, ∃ user password, e.2.Says user password) ∧
      ∀ s, r = .ok s → ∃ auths, Json.read record.reader text = .ok auths ∧
        (HostsDiffer auths.entries → IsLoaded auths s) := by
  refine ⟨read_written, takenAs_ofDockerConfig, fun order r t => ⟨?_, ?_⟩⟩
  case refine_1 =>
    simp only [← AuthEntry.usable_iff]
    exact exists_ok_iff t
  case refine_2 =>
    intro s hs
    rw [hs] at t
    have ⟨auths, es, read, p, _, taken⟩ := takenAs_ok_iff.1 t
    exact ⟨auths, read, fun differ => isLoaded_of_addAll differ p taken⟩

-- One entry of each kind: under the address of a registry, and under a name with a port.
namespace Apart

def text : Bytes :=
  bytesOf "\x7b\"auths\": \x7b" ++
  bytesOf "\"https://index.docker.io/v1/\": \x7b\"username\":\"u\",\"password\":\"p\"\x7d," ++
  bytesOf "\"Registry.local:5000\": \x7b\"auth\":\" Ym90OnBhOnNz\\n\"\x7d\x7d\x7d"

def hub : String × AuthEntry :=
  ("https://index.docker.io/v1/", { username := some "u", password := some "p" })

def own : String × AuthEntry := ("Registry.local:5000", { auth := some " Ym90OnBhOnNz\n" })

theorem read_eq : (Json.read record.reader text).toOption.map (·.entries) = some [own, hub] := by
  decide +kernel

theorem hub_says : hub.2.Says "u" "p" :=
  .apart rfl rfl

theorem own_says : own.2.Says "bot" "pa:ss" :=
  .joined (.inl rfl) rfl (by decide) (by decide +kernel) (by decide)

theorem hosts_eq : normalizeHost own.1 = "registry.local:5000" ∧ normalizeHost hub.1 = "docker.io" ∧
    normalizeHost "docker.io" = "docker.io" ∧
    normalizeHost "registry.local:5000" = "registry.local:5000" ∧
    normalizeHost "ghcr.io" = "ghcr.io" := by
  decide +kernel

end Apart

theorem login_of_config_sample : ∃ s, ofDockerConfig Apart.text = .ok s ∧ s.size = 2 ∧
    s.login "docker.io" = .basic "u" "p" ∧ s.login "registry.local:5000" = .basic "bot" "pa:ss" ∧
    s.login "ghcr.io" = .anonymous := by
  have ⟨auths, hr, entries⟩ := Option.map_eq_some_iff.1 Apart.read_eq
  have read : Json.read record.reader Apart.text = .ok auths := eq_ok_of_toOption hr
  have ⟨ownHost, hubHost, hubAsked, ownAsked, otherAsked⟩ := Apart.hosts_eq
  have ⟨_, ⟨order, t⟩, exact⟩ := login_of_config Apart.text
  have ⟨loads, loaded⟩ := exact order _ t
  have speak : ∀ e ∈ auths.entries, ∃ user password, e.2.Says user password := by
    rw [entries, List.forall_mem_cons, List.forall_mem_singleton]
    exact ⟨⟨_, _, Apart.own_says⟩, ⟨_, _, Apart.hub_says⟩⟩
  have ⟨s, hs⟩ := loads.2 ⟨auths, read, speak⟩
  have ⟨auths', read', hold⟩ := loaded s hs
  cases read.symm.trans read'
  have differ : HostsDiffer auths.entries := by
    rw [entries, HostsDiffer, List.pairwise_pair, ownHost, hubHost]
    decide
  have ⟨size, basic, anonymous⟩ := hold differ
  refine ⟨s, hs, ?_, ?_, ?_, ?_⟩
  case refine_1 => rw [size, Dict.size, entries]; rfl
  case refine_2 =>
    refine (basic ..).2 ⟨Apart.hub, ?_, hubHost.trans hubAsked.symm, Apart.hub_says⟩
    exact entries ▸ .tail _ (.head _)
  case refine_3 =>
    refine (basic ..).2 ⟨Apart.own, ?_, ownHost.trans ownAsked.symm, Apart.own_says⟩
    exact entries ▸ .head _
  case refine_4 =>
    rw [anonymous, entries, List.forall_mem_cons, List.forall_mem_singleton, ownHost, hubHost,
      otherAsked]
    decide

end ArtifactSync.Registry

import ArtifactSync.Proofs.Registry.Login
import ArtifactSync.Proofs.Registry.Usable
import ArtifactSync.Proofs.Url.Name
import Mathlib.Logic.Basic

namespace ArtifactSync.Registry

open Text (asciiLower IsPrintable)
open Url (IsHostName IsPort)

variable {cs : List Char}

namespace Reference

theorem isSign_of_isComponentFrom {last : Last} (h : isComponentFrom last cs) :
    ∀ c ∈ cs, IsSign c := by
  induction cs generalizing last with
  | nil          => exact fun _ hc => nomatch hc
  | cons c cs hi =>
    have ⟨here, last', there⟩ := isComponentFrom_cons h
    refine List.forall_mem_cons.2 ⟨?_, hi there⟩
    cases here with
    | inl word  => exact .inl (isAlphanumeric_iff.2 (.inl word))
    | inr other =>
      simp only [List.mem_cons, List.not_mem_nil, or_false] at other
      rcases other with rfl | rfl | rfl <;> decide

theorem isHostName_of_isComponent (h : isComponent cs) : IsHostName cs where
  nonempty := by
    rintro rfl
    cases h
  signs := isSign_of_isComponentFrom h

theorem isHostName_of_labels (h : ∀ label ∈ Text.splitOn '.' cs, isDomainLabel label) :
    IsHostName cs where
  nonempty := by
    rintro rfl
    exact absurd (h [] (.head _)) (by decide)
  signs c hc := by
    by_cases dot : c = '.'
    case pos => exact dot ▸ by decide
    case neg =>
      have ⟨label, hl, mem⟩ := Text.exists_mem_splitOn '.' hc dot
      have good := h label hl
      unfold isDomainLabel at good
      simp only [Bool.and_eq_true, List.all_eq_true, Bool.or_eq_true, decide_eq_true_eq] at good
      exact (good.1.1 c mem).imp_right fun hyphen => by simp [hyphen]

theorem split_of_isDomain (h : isDomain cs) :
    ∃ name port, cs = name ++ port ∧ IsHostName name ∧ IsPort port := by
  unfold isDomain at h
  simp only [Bool.and_eq_true, List.all_eq_true, drop_takeWhile] at h
  refine ⟨_, _, (List.takeWhile_append_dropWhile (p := (· ≠ ':'))).symm,
    isHostName_of_labels h.1, ?_⟩
  have last := List.head?_dropWhile_not (· ≠ ':') cs
  cases hp : cs.dropWhile (· ≠ ':') with
  | nil               => exact .absent
  | cons colon digits =>
    have port := h.2
    rw [hp] at port last
    simp only [List.head?_cons, decide_not, Bool.not_eq_false', decide_eq_true_eq] at last
    simp only [Bool.and_eq_true, List.all_eq_true] at port
    exact last ▸ .given (by simpa using port.1) port.2

end Reference

open Reference

variable {text registry : String} {a : Address}

-- A registry as the name of a host and a port.
structure IsAuthority (registry : String) (name port : List Char) : Prop where
  whole      : registry.toList = name ++ port
  isHostName : IsHostName name
  isPort     : IsPort port

theorem registry_ofParts (left back : List Char) :
    (Address.ofParts left back).registry = hub ∨
      (Address.ofParts left back).registry = String.ofList left := by
  unfold Address.ofParts settle
  dsimp only
  rw [Address.ownedBy_fst]
  cases isRegistry left with
  | false => exact .inl rfl
  | true  =>
    rw [if_pos rfl]
    exact ite_eq_or_eq ..

theorem exists_isAuthority (h : Address.ofText text = .ok a) :
    ∃ name port, IsAuthority a.registry name port := by
  have ⟨left, back, _, _, first, _, same⟩ := Address.eq_ofParts h
  rw [same]
  cases registry_ofParts left back with
  | inl named =>
    have component : isComponent hub.toList := by decide
    exact ⟨_, [], by rw [named, List.append_nil], isHostName_of_isComponent component, .absent⟩
  | inr named =>
    cases first with
    | inl component =>
      exact ⟨left, [], by rw [named]; simp, isHostName_of_isComponent component, .absent⟩
    | inr domain    =>
      have ⟨name, port, whole, hn, hp⟩ := split_of_isDomain domain
      exact ⟨name, port, by rw [named, String.toList_ofList, whole], hn, hp⟩

namespace IsAuthority

variable {name port : List Char} {scheme path key : String}

theorem isPrintable (h : IsAuthority registry name port) : IsPrintable registry.toList := by
  rw [h.whole]
  exact (IsSign.isPrintable h.isHostName.signs).append h.isPort.isPrintable

theorem toList_lower (h : IsAuthority registry name port) :
    (Text.lower registry).toList = (name ++ port).map asciiLower := by
  rw [Text.toList_lower h.isPrintable.isAscii, h.whole]

theorem not_mem (h : IsAuthority registry name port) : '/' ∉ registry.toList := by
  rw [h.whole, List.mem_append, not_or]
  refine ⟨h.isHostName.not_mem (by decide), fun hc => ?_⟩
  have ended := (h.isPort.endsAuthority true hc).1
  exact absurd ended (by decide)

-- A colon in it has digits behind it.
theorem ne_append_colon {front : List Char} (h : IsAuthority registry name port) :
    registry.toList ≠ front ++ [':'] := by
  rw [h.whole]
  intro same
  have last := congrArg List.getLast? same
  rw [List.getLast?_concat] at last
  cases h.isPort with
  | absent          =>
    rw [List.append_nil] at last
    exact h.isHostName.not_mem (by decide) (List.mem_of_getLast? last)
  | given some decimal =>
    have ⟨digits, digit, same⟩ := List.eq_nil_or_concat _ |>.resolve_left some
    rw [same, List.concat_eq_append, ← List.cons_append, ← List.append_assoc, List.getLast?_concat]
      at last
    have colon := decimal digit (by simp [same])
    rw [Option.some.inj last] at colon
    cases colon

-- Behind a registry, only the path can look like an address.
theorem infix_iff {path : List Char} (h : IsAuthority registry name port) :
    "://".toList <:+: registry.toList ++ '/' :: path ↔ "://".toList <:+: path := by
  have mark : "://".toList = [':', '/', '/'] := rfl
  rw [mark]
  constructor
  case mpr =>
    intro found
    exact found.trans ((List.suffix_cons ..).trans (List.suffix_append ..)).isInfix
  case mp  =>
    intro ⟨front, back, same⟩
    rw [List.append_assoc] at same
    cases List.append_eq_append_iff.1 same with
    | inr behind =>
      have ⟨rest, _, hb⟩ := behind
      cases rest with
      | nil         => cases hb
      | cons c rest =>
        cases hb
        exact ⟨rest, back, List.append_assoc ..⟩
    | inl across =>
      have ⟨rest, hf, hb⟩ := across
      match rest with
      | []            => cases hb
      | [c]           =>
        cases hb
        exact absurd hf h.ne_append_colon
      | c :: d :: rest =>
        simp only [List.cons_append, List.cons.injEq] at hb
        exact absurd (by rw [hf, ← hb.2.1]; simp) h.not_mem

end IsAuthority

-- A key with a path or without one.
def withPath (front : String) : Option String → String
  | none      => front
  | some path => front ++ "/" ++ path

-- The keys that spell a registry, by the scheme that they are written with. A path that could be
-- taken for an address itself needs the scheme.
inductive Spells (registry : String) : Option String → String → Prop
  | bare {path? : Option String} :
    (∀ path ∈ path?, IsPrintable path.toList ∧ ¬"://".toList <:+: path.toList) →
    Spells registry none (withPath registry path?)
  | address {scheme : String} {path? : Option String} : (scheme = "http" ∨ scheme = "https") →
    (∀ path ∈ path?, IsPrintable path.toList) →
    Spells registry (some scheme) (withPath (scheme ++ "://" ++ registry) path?)

-- The names of the hub, of which the first stands for them all.
def hubNames : List String := ["docker.io", "index.docker.io", "registry-1.docker.io"]

-- What a key with a scheme needs: an address that writes the host and the port of the registry as
-- they are, but for capitals.
def IsWritten (registry scheme : String) : Prop :=
  ∃ name port, IsAuthority registry name port ∧ Url.IsKept name ∧ Url.IsKeptPort scheme port

namespace IsAuthority

def tailOf (path? : Option String) : List Char :=
  path?.elim [] ('/' :: ·.toList)

theorem toList_withPath {front : String} {path? : Option String} :
    (withPath front path?).toList = front.toList ++ tailOf path? := by
  cases path? <;> simp [withPath, tailOf]

theorem isTail_tailOf (path? : Option String) : Url.IsTail (tailOf path?) := by
  cases path? with
  | none      => exact fun _ hc => nomatch hc
  | some path => exact fun c hc => by cases hc; rfl

theorem isPrintable_tailOf {path? : Option String} (h : ∀ path ∈ path?, IsPrintable path.toList) :
    IsPrintable (tailOf path?) := by
  cases path? with
  | none      => exact fun _ hc => nomatch hc
  | some path =>
    intro c hc
    cases hc with
    | head      => decide
    | tail _ hc => exact h path rfl c hc

-- A key without a scheme ends where its path begins.
theorem normalizeHost_bare (path? : Option String) (h : IsAuthority registry name port)
    (hp : ∀ path ∈ path?, IsPrintable path.toList ∧ ¬"://".toList <:+: path.toList) :
    normalizeHost (withPath registry path?) = canonicalHost (Text.lower registry) := by
  have printable := h.isPrintable.append (isPrintable_tailOf fun path mem => (hp path mem).1)
  have unmarked : ¬"://".toList <:+: registry.toList ++ tailOf path? := by
    cases path? with
    | some path => exact mt h.infix_iff.1 (hp path rfl).2
    | none      =>
      intro mark
      rw [tailOf, Option.elim_none, List.append_nil] at mark
      exact h.not_mem (mark.subset (by decide))
  have front : (registry.toList ++ tailOf path?).takeWhile (· ≠ '/') = registry.toList := by
    rw [Text.takeWhile_ne_append _ h.not_mem]
    cases path? <;> simp [tailOf]
  unfold normalizeHost
  dsimp only
  rw [toList_withPath, printable.trimChars, if_neg unmarked, front, String.ofList_toList]

theorem toList_address (scheme : String) (path? : Option String)
    (h : IsAuthority registry name port) :
    (withPath (scheme ++ "://" ++ registry) path?).toList =
      scheme.toList ++ "://".toList ++ (name ++ port ++ tailOf path?) := by
  simp [toList_withPath, h.whole]

theorem isPrintable_address {path? : Option String} (h : IsAuthority registry name port)
    (hs : scheme = "http" ∨ scheme = "https") (hp : ∀ path ∈ path?, IsPrintable path.toList) :
    IsPrintable (withPath (scheme ++ "://" ++ registry) path?).toList := by
  rw [h.toList_address, ← h.whole]
  exact (Url.isPrintable_scheme hs).append (h.isPrintable.append (isPrintable_tailOf hp))

-- A key with a scheme is read as an address.
theorem normalizeHost_address {path? : Option String} (h : IsAuthority registry name port)
    (hs : scheme = "http" ∨ scheme = "https") (hp : ∀ path ∈ path?, IsPrintable path.toList) :
    normalizeHost (withPath (scheme ++ "://" ++ registry) path?) =
      canonicalHost (Text.lower ((Url.authorityOf? scheme name port).getD
        (withPath (scheme ++ "://" ++ registry) path?))) := by
  have text := h.toList_address scheme path?
  have marked : "://".toList <:+: (withPath (scheme ++ "://" ++ registry) path?).toList := by
    rw [text]
    exact (List.suffix_append ..).isInfix.trans (List.prefix_append ..).isInfix
  have read := Url.hostAndPort?_readFrom? hs h.isHostName h.isPort
    (isTail_tailOf path?) (isPrintable_tailOf hp)
  rw [← text] at read
  unfold normalizeHost
  dsimp only
  rw [(h.isPrintable_address hs hp).trimChars, if_pos marked, read, String.ofList_toList]

-- It cannot stand for the registry itself.
theorem lower_address_ne {path? : Option String} (h : IsAuthority registry name port)
    (hs : scheme = "http" ∨ scheme = "https") (hp : ∀ path ∈ path?, IsPrintable path.toList) :
    Text.lower (withPath (scheme ++ "://" ++ registry) path?) ≠ Text.lower registry := by
  intro same
  have lengths := congrArg (fun s => s.toList.length) same
  simp only [Text.toList_lower (h.isPrintable_address hs hp).isAscii,
    Text.toList_lower h.isPrintable.isAscii, List.length_map, h.toList_address, h.whole,
    List.length_append] at lengths
  have mark : "://".toList.length = 3 := rfl
  omega

-- The names of the hub are written as they are.
theorem isWritten_of_hub (h : IsAuthority registry name port)
    (hub : Text.lower registry ∈ hubNames) : IsWritten registry scheme := by
  have facts : ∀ host ∈ hubNames,
      ':' ∉ host.toList ∧ Url.Ipv4.endsInNumber host.toList = false ∧
        ∀ label ∈ Url.Idna.labels host.toList,
          Url.Idna.punycodeMark.isPrefixOf label = false := by decide
  have ⟨colon, word, plain⟩ := facts _ hub
  have lower := h.toList_lower
  rw [List.map_append, h.isPort.map_asciiLower] at lower
  have foreign : ':' ∉ name.map asciiLower :=
    fun mem => absurd (Url.Idna.isSign_of_mem_map h.isHostName.signs mem) (by decide)
  have ⟨same, unported⟩ := IsPort.absent.append_inj h.isPort colon foreign
    (by rw [List.append_nil, lower])
  rw [same] at word plain
  exact ⟨name, port, h, .of_plain h.isHostName.signs plain word, unported ▸ .absent⟩

end IsAuthority

-- Apart from the names of the hub, a host has one name.
theorem eq_of_canonicalHost_eq {host host' : String}
    (same : canonicalHost host = canonicalHost host') (other : host' ∉ hubNames) :
    host = host' := by
  simp only [hubNames, List.mem_cons, List.not_mem_nil, or_false, not_or] at other
  have ⟨hub, index, first⟩ := other
  unfold canonicalHost at same
  rw [if_neg (c := host' = _ ∨ _) (by simp [index, first])] at same
  split at same
  case isTrue  => exact absurd same.symm hub
  case isFalse => exact same

open CredentialStore IsAuthority

variable {key user password : String} {scheme? : Option String} {config : Bytes}
  {auths : Dict AuthEntry} {e : AuthEntry}

-- A key means the registry that it spells, as far as it is written like it.
theorem normalizeHost_eq_iff {scheme : String} {path? : Option String} {name port : List Char}
    (h : IsAuthority registry name port) (hs : scheme = "http" ∨ scheme = "https")
    (hp : ∀ path ∈ path?, IsPrintable path.toList) :
    normalizeHost (withPath (scheme ++ "://" ++ registry) path?) = normalizeHost registry ↔
      IsWritten registry scheme := by
  have bare : normalizeHost registry = canonicalHost (Text.lower registry) :=
    h.normalizeHost_bare none fun _ mem => nomatch mem
  rw [bare]
  constructor
  case mpr =>
    intro ⟨name, port, h, kept⟩
    have ⟨t, read, same⟩ := (Url.authorityOf?_iff h.isHostName h.isPort).2 kept
    rw [h.normalizeHost_address hs hp, read, Option.getD_some]
    exact congrArg canonicalHost (String.toList_inj.1 (same.trans h.toList_lower.symm))
  case mp  =>
    intro same
    by_cases hub : Text.lower registry ∈ hubNames
    case pos => exact h.isWritten_of_hub hub
    case neg =>
      rw [h.normalizeHost_address hs hp] at same
      have same := eq_of_canonicalHost_eq same hub
      cases read : Url.authorityOf? scheme name port with
      | none   =>
        rw [read, Option.getD_none] at same
        exact absurd same (h.lower_address_ne hs hp)
      | some t =>
        rw [read, Option.getD_some] at same
        rw [← String.toList_inj, h.toList_lower] at same
        exact ⟨name, port, h, (Url.authorityOf?_iff h.isHostName h.isPort).1 ⟨t, read, same⟩⟩

-- The entry is found by the registry unless its key is written as an address that is another one.
theorem login_of_spells (accepted : Address.ofText text = .ok a)
    (spells : Spells a.registry scheme? key)
    (read : Json.read record.reader config = .ok auths) (single : auths.entries = [(key, e)])
    (usable : e.basic = .ok (user, password)) :
    ∃ s, ofDockerConfig config = .ok s ∧
      ((∀ scheme ∈ scheme?, IsWritten a.registry scheme) →
        s.login a.registry = .basic user password) ∧
      (¬(∀ scheme ∈ scheme?, IsWritten a.registry scheme) →
        s.login a.registry = .anonymous) := by
  have ⟨name, port, h⟩ := exists_isAuthority accepted
  have means : normalizeHost key = normalizeHost a.registry ↔
      ∀ scheme ∈ scheme?, IsWritten a.registry scheme := by
    cases spells with
    | bare hp       =>
      have bare : normalizeHost a.registry = _ :=
        h.normalizeHost_bare none fun _ mem => nomatch mem
      simp [h.normalizeHost_bare _ hp, bare]
    | address hs hp =>
      rw [normalizeHost_eq_iff h hs hp]
      simp
  obtain ⟨entries, only⟩ : ∃ d, d = Dict.insert ∅ (normalizeHost key) (user, password) := ⟨_, rfl⟩
  have added : empty.add key e = .ok ⟨entries⟩ := by
    unfold CredentialStore.add
    rw [usable, only]
    rfl
  have taken : ofDockerConfig config = .ok ⟨entries⟩ := by
    unfold ofDockerConfig
    rw [read]
    dsimp only
    rw [single]
    exact addAll_cons_ok_iff.2 ⟨_, added, addAll_nil_ok_iff.2 rfl⟩
  refine ⟨_, taken, fun written => ?_, fun other => ?_⟩
  case refine_1 =>
    refine login_of_find? (?_ : _ = some (user, password))
    rw [only, Dict.find?_insert, if_pos (means.2 written).symm]
  case refine_2 =>
    have absent : entries.find? (normalizeHost a.registry) = none := by
      rw [only, Dict.find?_insert, if_neg fun same => other (means.1 same.symm)]
      rfl
    unfold login
    rw [absent]

-- A config that has one entry.
def configOf (key : String) : Bytes :=
  bytesOf "\x7b\"auths\":\x7b\"" ++ bytesOf key ++
    bytesOf "\":\x7b\"username\":\"a\",\"password\":\"x\"\x7d\x7d\x7d"

-- A key with a scheme and a path, for a registry that has a port and a capital.
theorem login_of_spells_sample : ∃ s,
    Address.ofText "Reg.io:5000/org/site" = .ok ⟨"Reg.io:5000", "org/site"⟩ ∧
      Spells "Reg.io:5000" (some "https") "https://Reg.io:5000/v2/" ∧
      ofDockerConfig (configOf "https://Reg.io:5000/v2/") = .ok s ∧
      s.login "Reg.io:5000" = .basic "a" "x" := by
  have accepted : Address.ofText "Reg.io:5000/org/site" = .ok ⟨"Reg.io:5000", "org/site"⟩ :=
    eq_ok_of_toOption (by decide +kernel)
  have spells : Spells "Reg.io:5000" (some "https") "https://Reg.io:5000/v2/" :=
    @Spells.address _ _ (some "v2/") (.inr rfl) (by unfold IsPrintable; simp)
  have signs : ∀ c ∈ "Reg.io".toList, IsSign c := forall_isSign (by decide)
  have written : IsWritten "Reg.io:5000" "https" :=
    ⟨"Reg.io".toList, ":5000".toList,
      ⟨rfl, ⟨by decide, signs⟩, .given (by decide) (List.all_eq_true.1 (by decide))⟩,
      .of_plain signs (by decide) (by decide), .given (n := 5000) (by decide) (by decide)⟩
  have found : (Json.read record.reader (configOf "https://Reg.io:5000/v2/")).toOption.map
      (·.entries) =
        some [("https://Reg.io:5000/v2/", { username := some "a", password := some "x" })] := by
    decide +kernel
  have ⟨auths, read, single⟩ := Option.map_eq_some_iff.1 found
  have ⟨s, taken, login, _⟩ := login_of_spells accepted spells (eq_ok_of_toOption read) single rfl
  exact ⟨s, accepted, spells, taken, login fun _ same => by cases same; exact written⟩

-- The port of the scheme is left out of an address, so that the key stands for another registry.
theorem login_hidden_by_port : ∃ s,
    Address.ofText "reg.io:443/org/site" = .ok ⟨"reg.io:443", "org/site"⟩ ∧
      ofDockerConfig (configOf "https://reg.io:443") = .ok s ∧
      s.login "reg.io:443" = .anonymous := by
  have accepted : Address.ofText "reg.io:443/org/site" = .ok ⟨"reg.io:443", "org/site"⟩ :=
    eq_ok_of_toOption (by decide +kernel)
  have taken : (ofDockerConfig (configOf "https://reg.io:443")).toOption.map
      (·.login "reg.io:443") = some .anonymous := by
    decide +kernel
  have ⟨s, taken, login⟩ := Option.map_eq_some_iff.1 taken
  exact ⟨s, accepted, eq_ok_of_toOption taken, login⟩

end ArtifactSync.Registry

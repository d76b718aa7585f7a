import ArtifactSync.Proofs.Registry.Parts
import ArtifactSync.Registry.Client

namespace ArtifactSync.Registry

variable {cs front back name : List Char}

namespace Reference

-- The hub's own repositories have an owner too.
def ownedBy (registry repository : String) : String × String :=
  if registry = hub && !repository.toList.contains '/' then
    (registry, hubOwner ++ "/" ++ repository)
  else (registry, repository)

-- And it is known by one name.
def settle (parts : String × String) : String × String :=
  ownedBy (if parts.1 = hubHost then hub else parts.1) parts.2

theorem splitName_eq : splitName name = settle
    (if (name.takeWhile (· ≠ '/')).length < name.length && isRegistry (name.takeWhile (· ≠ '/'))
      then (String.ofList (name.takeWhile (· ≠ '/')),
        String.ofList (name.drop ((name.takeWhile (· ≠ '/')).length + 1)))
      else (hub, String.ofList name)) := rfl

theorem splitName_plain (hs : '/' ∉ cs) : splitName cs = settle (hub, String.ofList cs) := by
  rw [splitName_eq, Text.takeWhile_ne_self hs]
  simp

theorem splitName_append (hs : '/' ∉ front) :
    splitName (front ++ '/' :: back) = settle
      (if isRegistry front then (String.ofList front, String.ofList back)
      else (hub, String.ofList (front ++ '/' :: back))) := by
  have right : (front ++ '/' :: back).drop (front.length + 1) = back := by simp
  rw [splitName_eq, Text.takeWhile_ne_cons _ hs, right]
  simp

theorem not_mem_of_not_isRegistry (h : isRegistry cs = false) : ':' ∉ cs := by
  unfold isRegistry at h
  rw [Bool.or_eq_false_iff, Bool.or_eq_false_iff] at h
  simpa using h.1.2

end Reference

namespace Address

open Reference

def path (a : Address) : List Char :=
  a.registry.toList ++ '/' :: a.repository.toList

-- What is taken for a registry wherever it stands in front of a repository.
structure IsHost (registry : String) : Prop where
  isRegistry : isRegistry registry.toList
  single     : '/' ∉ registry.toList
  clean      : '@' ∉ registry.toList
  actual     : registry ≠ hubHost

-- An address that is told apart into the same parts whenever it is read again.
structure Sound (a : Address) : Prop where
  host  : IsHost a.registry
  owned : a.registry = hub → '/' ∈ a.repository.toList
  plain : ':' ∉ a.repository.toList
  clean : '@' ∉ a.repository.toList

variable {a : Address} {registry repository text : String}

theorem isHost_hub : IsHost hub := by
  constructor <;> decide

theorem sound_ownedBy (h : IsHost registry) (plain : ':' ∉ repository.toList)
    (clean : '@' ∉ repository.toList) :
    Sound ⟨(ownedBy registry repository).1, (ownedBy registry repository).2⟩ := by
  unfold ownedBy
  split
  case isTrue         =>
    refine ⟨h, fun _ => ?_, ?_, ?_⟩
    · simp [String.toList_append]
    · simp [String.toList_append, plain, hubOwner]
    · simp [String.toList_append, clean, hubOwner]
  case isFalse owned  => exact ⟨h, by simpa using owned, plain, clean⟩

theorem sound_settle (hi : isRegistry registry.toList) (single : '/' ∉ registry.toList)
    (clean : '@' ∉ registry.toList) (hp : ':' ∉ repository.toList)
    (hc : '@' ∉ repository.toList) :
    Sound ⟨(settle (registry, repository)).1, (settle (registry, repository)).2⟩ := by
  unfold settle
  dsimp only
  split
  case isTrue        => exact sound_ownedBy isHost_hub hp hc
  case isFalse other => exact sound_ownedBy ⟨hi, single, clean, other⟩ hp hc

theorem sound_of_isName (h : isName name) : Sound ⟨(splitName name).1, (splitName name).2⟩ := by
  by_cases hs : '/' ∈ name
  case pos =>
    have ⟨front, back, hc, hf⟩ := List.eq_append_cons_of_mem hs
    subst hc
    have ⟨hfc, hp, hb⟩ := isName_append h hf
    rw [splitName_append hf]
    split
    case isTrue hr  => apply sound_settle <;> simpa
    case isFalse hr =>
      have port := not_mem_of_not_isRegistry (Bool.eq_false_iff.2 hr)
      refine sound_ownedBy isHost_hub ?_ ?_
      · simp [port, hp]
      · simp [hfc, hb]
  case neg =>
    have ⟨hp, hc⟩ := isName_plain h hs
    rw [splitName_plain hs]
    exact sound_ownedBy isHost_hub (by simpa using hp) (by simpa using hc)

theorem Sound.splitName_path (s : Sound a) : splitName a.path = (a.registry, a.repository) := by
  rw [path, splitName_append s.host.single, if_pos s.host.isRegistry]
  unfold settle ownedBy
  simpa [s.host.actual] using s.owned

theorem toList_append_path {separator : String} :
    (a.registry ++ "/" ++ a.repository ++ separator ++ String.ofList cs).toList =
      a.path ++ (separator.toList ++ cs) := by
  simp [path, String.toList_append]

theorem Sound.not_mem_path (s : Sound a) : '@' ∉ a.path := by
  unfold path
  simp [s.host.clean, s.clean]

theorem Sound.not_mem_lastSegment (s : Sound a) : ':' ∉ lastSegment a.path :=
  fun h => s.plain (mem_of_mem_lastSegment h)

-- What a digest is found to be, where one is to follow.
theorem Sound.parts_pinned {parts : Parts} (s : Sound a)
    (h : Parts.ofText? (a.path ++ '@' :: cs) = some parts) : parts = ⟨a.path, none, some cs⟩ := by
  rw [ofText?_pinned s.not_mem_path, ofFront?_untagged s.not_mem_lastSegment] at h
  have ⟨_, same⟩ := Option.ite_none_right_eq_some.1 h
  exact (Option.some.inj same).symm

-- There is no digest without a colon in it.
theorem Sound.not_pinned {parts : Parts} (s : Sound a) (hc : ':' ∉ cs)
    (h : Parts.ofText? (a.path ++ ':' :: cs) = some parts) : '@' ∉ cs := by
  intro pinned
  have ⟨front, digest, hcs, hf⟩ := List.eq_append_cons_of_mem pinned
  have text : a.path ++ ':' :: cs = (a.path ++ ':' :: front) ++ '@' :: digest := by simp [hcs]
  rw [text, ofText?_pinned (by simp [s.not_mem_path, hf])] at h
  have colon := colon_mem_of_isDigest (isDigest_of_ofFront? h)
  exact hc (hcs ▸ List.mem_append_right _ (.tail _ colon))

-- And no tag before a slash: its colon would be part of the name.
theorem Sound.not_nested {parts : Parts} (s : Sound a) (hc : ':' ∉ cs)
    (h : Parts.ofText? (a.path ++ ':' :: cs) = some parts) : '/' ∉ cs := by
  intro nested
  have ⟨front, back, hcs, _⟩ := List.eq_append_cons_of_mem nested
  have untagged : ':' ∉ lastSegment (a.path ++ ':' :: cs) := by
    intro mem
    have text : a.path ++ ':' :: cs = (a.path ++ ':' :: front) ++ '/' :: back := by simp [hcs]
    exact hc (hcs ▸ List.mem_append_right _ (.tail _ (mem_of_mem_lastSegment (text ▸ mem))))
  rw [ofText?_plain (by simp [s.not_mem_path, s.not_pinned hc h]), ofFront?_untagged untagged] at h
  have ⟨good, _⟩ := Option.ite_none_right_eq_some.1 h
  rw [Bool.and_eq_true] at good
  have name : isName (a.registry.toList ++ '/' :: (a.repository.toList ++ ':' :: cs)) := by
    simpa [path] using good.1
  exact (isName_append name s.host.single).2.1 (by simp)

theorem Sound.parts_tagged {parts : Parts} (s : Sound a) (hc : ':' ∉ cs)
    (h : Parts.ofText? (a.path ++ ':' :: cs) = some parts) : parts = ⟨a.path, some cs, none⟩ := by
  have single := s.not_nested hc h
  rw [ofText?_plain (by simp [s.not_mem_path, s.not_pinned hc h]),
    ofFront?_tagged s.not_mem_lastSegment single] at h
  have ⟨_, same⟩ := Option.ite_none_right_eq_some.1 h
  exact (Option.some.inj same).symm

-- What an address is read from is all name.
theorem ofText_ok (h : ofText text = .ok a) :
    Parts.ofText? (trim text) = some ⟨trim text, none, none⟩ ∧
      splitName (trim text) = (a.registry, a.repository) ∧ Sound a := by
  unfold ofText at h
  dsimp only at h
  iterate 3 (split at h; cases h)
  split at h
  case isTrue       => cases h
  case isFalse bare =>
    split at h
    case h_1 r hr =>
      cases h
      simp only [Bool.or_eq_true, List.contains_iff_mem, not_or] at bare
      have ⟨parts, hp, made⟩ := Reference.ofText_ok hr
      rw [String.toList_ofList, ofText?_plain bare.1, ofFront?_untagged bare.2] at hp
      have ⟨good, same⟩ := Option.ite_none_right_eq_some.1 hp
      cases same
      rw [ofText?_plain bare.1, ofFront?_untagged bare.2, if_pos good, made]
      rw [Bool.and_eq_true] at good
      dsimp only
      exact ⟨rfl, (Prod.eta _).symm, sound_of_isName good.1⟩
    case h_2 => cases h

theorem reference_ok {artifact : String} {r : Reference} (s : Sound a)
    (h : a.reference artifact = .ok r) :
    r = if ':' ∈ (Text.trim artifact).toList
      then ⟨a.registry, a.repository, none, some (Text.trim artifact)⟩
      else ⟨a.registry, a.repository, some (Text.trim artifact), none⟩ := by
  have trimmed : (Text.trim artifact).toList = Text.trimChars artifact.toList :=
    String.toList_ofList
  rw [trimmed]
  unfold reference at h
  dsimp only at h
  split at h
  case isTrue  => cases h
  case isFalse =>
    split at h
    case h_1 r' hr =>
      cases h
      have ⟨parts, hp, made⟩ := Reference.ofText_ok hr
      by_cases colon : ':' ∈ Text.trimChars artifact.toList
      case pos =>
        rw [if_pos (by simpa using colon), toList_append_path] at hp
        cases s.parts_pinned hp
        rw [made, if_pos colon, s.splitName_path]
        rfl
      case neg =>
        rw [if_neg (by simpa using colon), toList_append_path] at hp
        cases s.parts_tagged colon hp
        rw [made, if_neg colon, s.splitName_path]
        rfl
    case h_2 => cases h

end Address

variable {client : Client} {text : String} {credential : Option PullCredential} {options : Options}

theorem Client.connect_ok (h : Client.connect text credential options = .ok client) :
    Address.ofText text = .ok client.address ∧
      loginFor client.address.registry credential = .ok client.login := by
  unfold Client.connect at h
  split at h
  case h_1 => cases h
  case h_2 =>
    have ⟨_, login, made⟩ := Fallible.bind_ok h
    cases made
    exact ⟨‹_›, login⟩

-- Whatever the artifact is called, it stays within the repository that the address is all about.
theorem reference_within (connected : Client.connect text credential options = .ok client) :
    Reference.Parts.ofText? (Address.trim text) = some ⟨Address.trim text, none, none⟩ ∧
      Reference.splitName (Address.trim text) =
        (client.address.registry, client.address.repository) ∧
      ∀ artifact r, client.reference artifact = .ok r →
        r = if ':' ∈ (Text.trim artifact).toList
          then ⟨client.address.registry, client.address.repository, none,
            some (Text.trim artifact)⟩
          else ⟨client.address.registry, client.address.repository,
            some (Text.trim artifact), none⟩ := by
  have ⟨address, _⟩ := Client.connect_ok connected
  have ⟨parts, split, sound⟩ := Address.ofText_ok address
  refine ⟨parts, split, fun artifact r h => ?_⟩
  unfold Client.reference at h
  split at h
  case h_1 hr =>
    cases h
    exact Address.reference_ok sound hr
  case h_2 => cases h

theorem eq_ok_of_toOption {ε α : Type} {x : Except ε α} {a : α} (h : x.toOption = some a) :
    x = .ok a := by
  cases x with
  | ok _    => exact congrArg Except.ok (Option.some.inj h)
  | error _ => cases h

-- A repository of the hub's own, under the other name of the hub.
theorem reference_within_sample : ∃ client r,
    Client.connect "index.docker.io/site" none (.ofConfig {}) = .ok client ∧
      client.reference " v1 " = .ok r ∧ r = ⟨"docker.io", "library/site", some "v1", none⟩ := by
  have connected : Client.connect "index.docker.io/site" none (.ofConfig {}) =
      .ok ⟨⟨"docker.io", "library/site"⟩, .anonymous, .ofConfig {}⟩ :=
    eq_ok_of_toOption (by decide +kernel)
  have referred : (⟨⟨"docker.io", "library/site"⟩, .anonymous, .ofConfig {}⟩ : Client).reference
      " v1 " = .ok ⟨"docker.io", "library/site", some "v1", none⟩ :=
    eq_ok_of_toOption (by decide +kernel)
  have ⟨_, _, within⟩ := reference_within connected
  exact ⟨_, _, connected, referred, (within _ _ referred).trans (by decide +kernel)⟩

end ArtifactSync.Registry

import ArtifactSync.Proofs.Registry.Address
import ArtifactSync.Proofs.Registry.Sign

namespace ArtifactSync.Registry

open Text (isAsciiUpper isAsciiUpper_iff)

variable {cs front back name tag : List Char} {c : Char}

-- A letter, a digit or an underscore, and behind it up to 127 of these, dots and hyphens.
structure IsPlainTag (tag : String) : Prop where
  first : ∃ c rest, tag.toList = c :: rest ∧ (isAlphanumeric c ∨ c = '_')
  short : tag.toList.length ≤ 128
  signs : ∀ c ∈ tag.toList, IsSign c

namespace Reference

theorem isAsciiWord_iff : Text.isAsciiWord c ↔ isAlphanumeric c ∨ c = '_' := by
  simp only [Text.isAsciiWord, isAlphanumeric, isLowerOrDigit, Bool.or_eq_true, decide_eq_true_eq]
  grind

-- In lower case, a label of a domain can be a component of a path.
theorem isComponentFrom_of_signs {last : Last} (signs : ∀ c ∈ cs, isLowerOrDigit c ∨ c = '-')
    (ends : cs.getLast?.all isLowerOrDigit)
    (hl : last = .word ∨ last = .hyphen ∧ cs ≠ [] ∨
      last = .separator ∧ cs.head?.any isLowerOrDigit) :
    isComponentFrom last cs := by
  induction cs generalizing last with
  | nil            =>
    rcases hl with rfl | ⟨_, none⟩ | ⟨_, none⟩
    · rfl
    · exact absurd rfl none
    · cases none
  | cons c rest hi =>
    have ⟨here, there⟩ := List.forall_mem_cons.1 signs
    have ends' : rest.getLast?.all isLowerOrDigit := by
      cases rest with
      | nil      => rfl
      | cons _ _ => simpa using ends
    by_cases hc : isLowerOrDigit c
    case pos =>
      have := hi there ends' (.inl rfl)
      grind [isComponentFrom]
    case neg =>
      have hyphen : c = '-' := here.resolve_left hc
      have more : rest ≠ [] := by
        intro none
        rw [none] at ends
        exact hc (by simpa using ends)
      have := hi there ends' (.inr (.inl ⟨rfl, more⟩))
      rcases hl with rfl | ⟨rfl, _⟩ | ⟨rfl, first⟩
      · simp [isComponentFrom, hyphen, this, show isLowerOrDigit '-' = false from rfl]
      · simp [isComponentFrom, hyphen, this, show isLowerOrDigit '-' = false from rfl]
      · exact absurd (by simpa using first) hc

-- There are no capitals in a path.
theorem not_isAsciiUpper_of_isComponent (h : isComponent cs) : ¬∃ c ∈ cs, isAsciiUpper c := by
  intro ⟨c, hc, capital⟩
  have bounds := isAsciiUpper_iff.1 capital
  have small : ¬isLowerOrDigit c := by
    rw [isLowerOrDigit_iff]
    omega
  have sign : c ∉ ['.', '_', '-'] := by
    intro mem
    have : c = '.' ∨ c = '_' ∨ c = '-' := by simpa using mem
    rcases this with rfl | rfl | rfl <;> exact absurd bounds (by decide)
  exact not_mem_of_isComponentFrom h (by simpa using small) sign hc

theorem isComponent_iff_of_isDomainLabel (h : isDomainLabel cs) :
    isComponent cs ↔ ¬∃ c ∈ cs, isAsciiUpper c := by
  constructor
  case mp  => exact not_isAsciiUpper_of_isComponent
  case mpr =>
    intro small
    unfold isDomainLabel at h
    simp only [Bool.and_eq_true, List.all_eq_true, Bool.or_eq_true, decide_eq_true_eq] at h
    have lower (c) (hc : c ∈ cs) (ha : isAlphanumeric c) : isLowerOrDigit c :=
      (isAlphanumeric_iff.1 ha).resolve_right fun capital => small ⟨c, hc, capital⟩
    refine isComponentFrom_of_signs (fun c hc => (h.1.1 c hc).imp_left (lower c hc)) ?_
      (.inr (.inr ⟨rfl, ?_⟩))
    · cases hl : cs.getLast? with
      | none   => rfl
      | some c =>
        have last := h.2
        rw [hl] at last
        exact lower c (List.mem_of_getLast? hl) (by simpa using last)
    · cases cs with
      | nil      => simp at h
      | cons c _ => exact lower c List.mem_cons_self (by simpa using h.1.2)

theorem isName_append_iff (hs : '/' ∉ front) : isName (front ++ '/' :: back) ↔
    (isComponent front ∨ isDomain front) ∧ isPath (Text.splitOn '/' back) := by
  have some := Text.splitOn_ne_nil '/' back
  unfold isName isPath
  rw [Text.splitOn_append back hs]
  simp [some]
  grind

-- A domain that is not taken for a registry is a single label.
theorem isDomainLabel_of_not_isRegistry (h : isDomain cs) (hr : isRegistry cs = false) :
    isDomainLabel cs := by
  unfold isRegistry at hr
  simp only [Bool.or_eq_false_iff, List.contains_eq_mem, decide_eq_false_iff_not] at hr
  unfold isDomain at h
  simp only [Text.takeWhile_ne_self hr.1.2, Text.splitOn_of_not_mem hr.1.1] at h
  simpa using h

theorem ofText_of_parts {text : String} {parts : Parts}
    (hp : Parts.ofText? text.toList = some parts) (undigested : parts.digest? = none)
    (short : (splitName parts.name).2.utf8ByteSize ≤ 255) :
    ofText text = .ok ⟨(splitName parts.name).1, (splitName parts.name).2,
      if parts.tag?.isNone then some defaultTag else parts.tag?.map String.ofList, none⟩ := by
  have nonempty : text.isEmpty = false := by
    rw [Bool.eq_false_iff, ne_eq, String.isEmpty_iff]
    intro he
    rw [he] at hp
    cases hp
  unfold ofText
  simp only [nonempty, hp, undigested, if_neg (Nat.not_lt.2 short)]
  simp
  rfl

theorem ofText_eq_format {text : String} (nonempty : text.isEmpty = false)
    (hp : Parts.ofText? text.toList = none) : ofText text = .error .format := by
  unfold ofText
  simp [nonempty, hp]

theorem short_of_ofText {text : String} {r : Reference} (h : ofText text = .ok r) :
    r.repository.utf8ByteSize ≤ 255 := by
  unfold ofText at h
  split at h
  case isTrue  => cases h
  case isFalse =>
    split at h
    case h_1 => cases h
    case h_2 parts hp =>
      dsimp only at h
      split at h
      case isTrue        => cases h
      case isFalse short =>
        have ⟨_, _, made⟩ := Fallible.bind_ok h
        cases made
        exact Nat.not_lt.1 short

theorem isName_of_ofText? {parts : Parts} (h : Parts.ofText? cs = some parts) :
    isName parts.name := by
  unfold Parts.ofText? at h
  have ⟨good, made⟩ := Option.ite_none_right_eq_some.1 h
  cases made
  simp only [Bool.and_eq_true] at good
  exact good.1.1

end Reference

namespace Address

open Reference

variable {a : Address} {text : String}

-- What an address begins with, where that is no registry but no word of a path either.
def Misplaced (text : String) : Prop :=
  isRegistry ((trim text).takeWhile (· ≠ '/')) = false ∧
    ∃ c ∈ (trim text).takeWhile (· ≠ '/'), isAsciiUpper c

theorem slash_mem_of_ofText (h : ofText text = .ok a) :
    '/' ∈ trim text ∧ a.repository.utf8ByteSize ≤ 255 := by
  unfold ofText at h
  dsimp only at h
  iterate 2 (split at h; cases h)
  split at h
  case isTrue        => cases h
  case isFalse slash =>
    split at h
    case isTrue  => cases h
    case isFalse =>
      split at h
      case h_1 r hr =>
        cases h
        exact ⟨by simpa using slash, short_of_ofText hr⟩
      case h_2 => cases h

-- The parts of the name, as the address has them.
def ofParts (left back : List Char) : Address :=
  let parts := settle (if isRegistry left then (String.ofList left, String.ofList back)
    else (hub, String.ofList (left ++ '/' :: back)))
  ⟨parts.1, parts.2⟩

theorem eq_ofParts (h : ofText text = .ok a) : ∃ left back, trim text = left ++ '/' :: back ∧
    '/' ∉ left ∧ (isComponent left ∨ isDomain left) ∧ isPath (Text.splitOn '/' back) ∧
    a = ofParts left back := by
  have ⟨parts, split, _⟩ := ofText_ok h
  have ⟨slash, _⟩ := slash_mem_of_ofText h
  have ⟨left, back, hc, hs⟩ := List.eq_append_cons_of_mem slash
  have ⟨first, rest⟩ := (isName_append_iff hs).1 (hc ▸ isName_of_ofText? parts)
  rw [hc, splitName_append hs] at split
  refine ⟨left, back, hc, hs, first, rest, ?_⟩
  unfold ofParts
  rw [split]

theorem ownedBy_fst {registry repository : String} :
    (ownedBy registry repository).1 = registry := by
  unfold ownedBy
  split <;> rfl

theorem isPath_ownedBy (registry : String) {repository : String}
    (h : isPath (Text.splitOn '/' repository.toList)) :
    isPath (Text.splitOn '/' (ownedBy registry repository).2.toList) := by
  unfold ownedBy
  split
  case isFalse => exact h
  case isTrue  =>
    have owner : hubOwner.toList = ['l', 'i', 'b', 'r', 'a', 'r', 'y'] := rfl
    have path : ((hubOwner ++ "/" ++ repository).toList) =
        hubOwner.toList ++ '/' :: repository.toList := by simp [String.toList_append]
    rw [path, Text.splitOn_append _ (by rw [owner]; decide)]
    unfold isPath at h ⊢
    simp only [Bool.and_eq_true] at h
    simpa [h.2] using (by decide : isComponent hubOwner.toList)

-- What has been read as an address can be read again, unless it was misplaced.
theorem isName_path_iff (h : ofText text = .ok a) : isName a.path ↔ ¬Misplaced text := by
  have ⟨left, back, hc, hs, first, rest, same⟩ := eq_ofParts h
  have ⟨_, _, sound⟩ := ofText_ok h
  rw [path, isName_append_iff sound.host.single, same]
  unfold Misplaced ofParts
  rw [hc, Text.takeWhile_ne_cons _ hs]
  cases hr : isRegistry left with
  | true  =>
    have domain : isComponent hub.toList := by decide
    have host : ∀ host, (host = hub ∨ host = String.ofList left) →
        isComponent host.toList ∨ isDomain host.toList := by
      intro host named
      cases named with
      | inl hub   => exact .inl (hub ▸ domain)
      | inr plain => simpa [plain] using first
    rw [if_pos rfl, settle]
    dsimp only
    rw [ownedBy_fst]
    refine iff_of_true ⟨host _ ?_, isPath_ownedBy _ (by simpa using rest)⟩ (by simp)
    split <;> simp
  | false =>
    have other : hub ≠ hubHost := by decide
    have again : isPath (Text.splitOn '/' (left ++ '/' :: back)) ↔ isComponent left := by
      unfold isPath at rest ⊢
      rw [Text.splitOn_append _ hs]
      simp only [Bool.and_eq_true] at rest
      simp [rest.2]
    have capitals : isComponent left ↔ ¬∃ c ∈ left, isAsciiUpper c := by
      cases first with
      | inl component => exact iff_of_true component (not_isAsciiUpper_of_isComponent component)
      | inr domain    =>
        exact isComponent_iff_of_isDomainLabel (isDomainLabel_of_not_isRegistry domain hr)
    rw [if_neg (by decide), settle, if_neg other, ownedBy, if_neg (by simp)]
    dsimp only
    rw [String.toList_ofList, again, capitals]
    simp [show isComponent hub.toList by decide]

end Address

open Reference

namespace IsPlainTag

variable {tag : String}

theorem isWord_of_sign (h : isAlphanumeric c ∨ c = '_') : Text.isWord c := by
  have sign : IsSign c := h.imp_right fun same => by simp [same]
  have ascii : c.toNat < 0x80 := Nat.lt_trans sign.bounds.2 (by decide)
  rw [Text.isWord, if_pos ascii]
  exact isAsciiWord_iff.2 h

theorem isTag (plain : IsPlainTag tag) : Reference.isTag tag.toList := by
  have ⟨c, rest, ht, hc⟩ := plain.first
  have short := plain.short
  have signs := plain.signs
  rw [ht] at short signs ⊢
  unfold Reference.isTag
  have short : rest.length ≤ 127 := Nat.le_of_succ_le_succ short
  simp only [isWord_of_sign hc, Bool.and_eq_true, List.all_eq_true, Bool.or_eq_true,
    decide_eq_true_eq]
  refine ⟨⟨trivial, short⟩, fun d hd => ?_⟩
  cases signs d (.tail _ hd) with
  | inl alphanumeric => exact .inl (.inl (isWord_of_sign (.inl alphanumeric)))
  | inr sign         =>
    have : d = '_' ∨ d = '.' ∨ d = '-' := by simpa using sign
    rcases this with rfl | rfl | rfl
    · exact .inl (.inl (isWord_of_sign (.inr rfl)))
    · exact .inl (.inr rfl)
    · exact .inr rfl

theorem not_mem (plain : IsPlainTag tag) (hc : ¬IsSign c) : c ∉ tag.toList :=
  fun mem => hc (plain.signs c mem)

theorem toList_ne_nil (plain : IsPlainTag tag) : tag.toList ≠ [] := by
  have ⟨c, rest, ht, _⟩ := plain.first
  rw [ht]
  exact List.cons_ne_nil c rest

end IsPlainTag

open Address

variable {a : Address} {client : Client} {text tag : String} {credential : Option PullCredential}
  {options : Options}

-- What the artifact is called in full.
def Address.tagged (a : Address) (tag : String) : String :=
  a.registry ++ "/" ++ a.repository ++ ":" ++ tag

theorem Address.Sound.ofText?_tagged (s : Sound a) (plain : IsPlainTag tag) :
    Parts.ofText? (a.tagged tag).toList =
      if isName a.path then some ⟨a.path, some tag.toList, none⟩ else none := by
  have text : (a.tagged tag).toList = a.path ++ ':' :: tag.toList := by
    simp [tagged, path, String.toList_append]
  have pin : '@' ∉ a.path ++ ':' :: tag.toList := by
    simp [s.not_mem_path, plain.not_mem (c := '@') (by decide)]
  rw [text, ofText?_plain pin, ofFront?_tagged s.not_mem_lastSegment
    (plain.not_mem (by decide))]
  simp [plain.isTag]

theorem Client.reference_eq (plain : IsPlainTag tag) : client.reference tag =
    match Reference.ofText (client.address.tagged tag) with
    | .ok r    => .ok r
    | .error f => .error (.invalidRegistry
      (ReferenceFault.invalid (client.address.tagged tag) f).message) := by
  have untagged : ':' ∉ tag.toList := plain.not_mem (by decide)
  unfold Client.reference Address.reference
  simp only [(IsSign.isPrintable plain.signs).trimChars, List.isEmpty_iff,
    if_neg plain.toList_ne_nil, List.contains_iff_mem, if_neg untagged, String.ofList_toList]
  rw [← Address.tagged]
  cases Reference.ofText (client.address.tagged tag) <;> rfl

-- A misplaced address is accepted, but it cannot be used.
theorem reference_of_connect (connected : Client.connect text credential options = .ok client)
    (plain : IsPlainTag tag) :
    (¬Misplaced text → client.reference tag =
      .ok ⟨client.address.registry, client.address.repository, some tag, none⟩) ∧
    (Misplaced text → client.reference tag = .error (.invalidRegistry
      (ReferenceFault.invalid (client.address.tagged tag) .format).message)) := by
  have ⟨address, _⟩ := Client.connect_ok connected
  have ⟨_, _, sound⟩ := ofText_ok address
  have ⟨_, short⟩ := slash_mem_of_ofText address
  have found := sound.ofText?_tagged plain
  have again := isName_path_iff address
  rw [Client.reference_eq plain]
  constructor
  case left  =>
    intro placed
    rw [if_pos (again.2 placed)] at found
    have read := ofText_of_parts found rfl (by rw [sound.splitName_path]; exact short)
    rw [sound.splitName_path] at read
    simp [read]
  case right =>
    intro misplaced
    rw [if_neg fun name => again.1 name misplaced] at found
    have nonempty : (client.address.tagged tag).isEmpty = false := by simp [tagged]
    rw [ofText_eq_format nonempty found]

-- A registry that needs no dot to be one, and a tag that ends in a dot.
theorem reference_of_connect_sample : ∃ client,
    Client.connect "LocalHost:5000/org/site/" none (.ofConfig {}) = .ok client ∧
      IsPlainTag "_v1." ∧
      client.reference "_v1." = .ok ⟨"LocalHost:5000", "org/site", some "_v1.", none⟩ := by
  have connected : Client.connect "LocalHost:5000/org/site/" none (.ofConfig {}) =
      .ok ⟨⟨"LocalHost:5000", "org/site"⟩, .anonymous, .ofConfig {}⟩ :=
    eq_ok_of_toOption (by decide +kernel)
  have plain : IsPlainTag "_v1." := ⟨⟨'_', _, rfl, .inr rfl⟩, by decide, forall_isSign (by decide)⟩
  have ⟨placed, _⟩ := reference_of_connect connected plain
  exact ⟨_, connected, plain, placed (by unfold Misplaced; decide +kernel)⟩

-- An address that is accepted, and that no tag can be used with.
theorem reference_misplaced : ∃ client,
    Client.connect "Org/site" none (.ofConfig {}) = .ok client ∧ IsPlainTag "v1" ∧
      client.reference "v1" = .error (.invalidRegistry
        "Invalid artifact reference 'docker.io/Org/site:v1': invalid reference format") := by
  have connected : Client.connect "Org/site" none (.ofConfig {}) =
      .ok ⟨⟨"docker.io", "Org/site"⟩, .anonymous, .ofConfig {}⟩ :=
    eq_ok_of_toOption (by decide +kernel)
  have plain : IsPlainTag "v1" := ⟨⟨'v', _, rfl, .inl rfl⟩, by decide, forall_isSign (by decide)⟩
  exact ⟨_, connected, plain, by rw [Client.reference_eq plain]; rfl⟩

end ArtifactSync.Registry

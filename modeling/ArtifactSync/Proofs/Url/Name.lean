import ArtifactSync.Proofs.Url.Authority

namespace ArtifactSync.Url

open Registry (IsSign isAlphanumeric_iff isLowerOrDigit_iff)
open Text (asciiLower IsAscii)

variable {name cs : List Char} {bytes : Bytes} {label : List Char} {l : Idna.Label}

theorem percentDecode_eq_self (h : 0x25 ∉ bytes) : percentDecode bytes = bytes := by
  induction bytes with
  | nil             => rfl
  | cons b bytes hi =>
    rw [List.mem_cons, not_or] at h
    rw [percentDecode.eq_def]
    dsimp only
    rw [if_neg (Ne.symm h.1), hi h.2]

namespace Idna

theorem isAscii_iff : isAscii cs ↔ IsAscii cs := by
  simp [isAscii, IsAscii]

theorem written_of_ofText? (ascii : IsAscii label) (h : Label.ofText? label = some l) :
    l.written = label := by
  unfold Label.ofText? at h
  split at h
  case isTrue  =>
    have ⟨meant, _, h⟩ := Option.bind_eq_some_iff.1 h
    have ⟨_, same⟩ := Option.ite_none_left_eq_some.1 h
    cases same
    rfl
  case isFalse =>
    rw [if_pos (isAscii_iff.2 ascii)] at h
    cases h
    rfl

theorem mapM_written {labels : List (List Char)} {ls : List Label}
    (ascii : ∀ label ∈ labels, IsAscii label) (h : labels.mapM Label.ofText? = some ls) :
    ls.map (·.written) = labels := by
  induction labels generalizing ls with
  | nil                  =>
    cases h
    rfl
  | cons label labels hi =>
    have ⟨here, there⟩ := List.forall_mem_cons.1 ascii
    rw [List.mapM_cons] at h
    have ⟨l, hl, h⟩ := Option.bind_eq_some_iff.1 h
    have ⟨rest, hr, h⟩ := Option.bind_eq_some_iff.1 h
    cases h
    rw [List.map_cons, written_of_ofText? here hl, hi there hr]

theorem mapM_mapChar? (ascii : IsAscii cs) :
    cs.mapM mapChar? = some (cs.map fun c => [asciiLower c]) := by
  induction cs with
  | nil          => rfl
  | cons c cs hi =>
    have ⟨here, there⟩ := List.forall_mem_cons.1 ascii
    rw [List.mapM_cons, hi there, mapChar?, if_pos here]
    rfl

theorem compose_eq_self (ascii : IsAscii cs) : compose cs = cs := by
  unfold compose
  rw [if_pos]
  rw [List.all_eq_true]
  exact fun c hc => decide_eq_true (Nat.lt_trans (ascii c hc) (by decide))

-- An ASCII name has no other plain form than its lower case.
theorem plainForm?_eq (ascii : IsAscii cs) {plain : List Char} (h : plainForm? cs = some plain) :
    plain = cs.map asciiLower := by
  unfold plainForm? at h
  dsimp only at h
  split at h
  case isTrue  =>
    cases h
    rfl
  case isFalse =>
    have lowered := ascii.map_asciiLower
    have flat : (cs.map fun c => [asciiLower c]).flatten = cs.map asciiLower := by
      rw [← List.flatMap_def, List.map_eq_flatMap]
    rw [mapM_mapChar? ascii] at h
    simp only [Option.bind_eq_bind, Option.bind_some] at h
    rw [flat, compose_eq_self lowered] at h
    have ⟨ls, hl, h⟩ := Option.bind_eq_some_iff.1 h
    have ⟨_, same⟩ := Option.ite_none_right_eq_some.1 h
    rw [mapM_written (fun _ => lowered.of_mem_splitOn) hl] at same
    cases same
    exact Text.intercalate_splitOn '.' _

theorem toAscii?_eq (ascii : IsAscii cs) {plain : List Char} (h : toAscii? cs = some plain) :
    plain = cs.map asciiLower :=
  plainForm?_eq ascii (Option.filter_eq_some_iff.1 h).1

theorem not_isForbidden {c : Char} (h : IsSign c) : isForbidden c = false := by
  have ⟨low, high⟩ := h.bounds
  have other : c ∉ "%#/:<>?@[\\]^|".toList := by
    intro mem
    have none : "%#/:<>?@[\\]^|".toList.all (fun c => !decide (IsSign c)) := by decide
    simpa [h] using List.all_eq_true.1 none c mem
  simp only [isForbidden, Bool.or_eq_false_iff, decide_eq_false_iff_not, List.contains_eq_mem]
  exact ⟨⟨by omega, by omega⟩, other⟩

theorem isSign_asciiLower {c : Char} (h : IsSign c) : IsSign (asciiLower c) := by
  cases hu : Text.isAsciiUpper c with
  | false => exact (Text.asciiLower_eq_self hu).symm ▸ h
  | true  =>
    have bounds := Text.isAsciiUpper_iff.1 hu
    refine .inl (isAlphanumeric_iff.2 (.inl (isLowerOrDigit_iff.2 (.inl ?_))))
    rw [Text.toNat_asciiLower, if_pos hu]
    omega

theorem isSign_of_mem_map {c : Char} (signs : ∀ c ∈ cs, IsSign c) (h : c ∈ cs.map asciiLower) :
    IsSign c := by
  have ⟨d, hd, same⟩ := List.mem_map.1 h
  exact same ▸ isSign_asciiLower (signs d hd)

-- A name has a plain form unless one of its labels claims to be written in Punycode.
theorem toAscii?_plain (signs : ∀ c ∈ cs, IsSign c)
    (plain : ∀ label ∈ labels (cs.map asciiLower), punycodeMark.isPrefixOf label = false) :
    toAscii? cs = some (cs.map asciiLower) := by
  have ascii := (IsSign.isPrintable signs).isAscii
  have form : plainForm? cs = some (cs.map asciiLower) := by
    unfold plainForm?
    dsimp only
    rw [if_pos]
    rw [isAscii_iff.2 ascii, Bool.true_and, List.all_eq_true]
    exact fun label hl => by rw [plain label hl]; rfl
  have permitted : (cs.map asciiLower).any isForbidden = false := by
    rw [List.any_eq_false]
    intro c hc
    rw [not_isForbidden (isSign_of_mem_map signs hc)]
    exact Bool.false_ne_true
  rw [toAscii?, form, Option.filter_some, permitted]
  rfl

end Idna

namespace Ipv4

theorem number?_toString {n : Nat} (h : n < 256) : number? (toString n).toList = some n := by
  have all : ∀ n : Fin 256, number? (toString n.val).toList = some n.val := by decide +kernel
  exact all ⟨n, h⟩

theorem toString_ne_nil {n : Nat} : (toString n).toList ≠ [] := by
  rw [Nat.toString_eq_ofList_toDigits, String.toList_ofList]
  exact Nat.toDigits_ne_nil

theorem isDigit_of_mem_toString {n : Nat} {c : Char} (h : c ∈ (toString n).toList) : c.isDigit := by
  rw [Nat.toString_eq_ofList_toDigits, String.toList_ofList] at h
  exact Nat.isDigit_of_mem_toDigits (by decide) (by decide) h

theorem not_mem_toString {n : Nat} : '.' ∉ (toString n).toList :=
  fun h => absurd (isDigit_of_mem_toString h) (by decide)

theorem toList_text {n : Nat} : (text n).toList =
    (toString (n / 16777216 % 256)).toList ++ '.' :: ((toString (n / 65536 % 256)).toList ++
      '.' :: ((toString (n / 256 % 256)).toList ++ '.' :: (toString (n % 256)).toList)) := by
  simp [text, String.toList_append, toString]

theorem parts_text {n : Nat} : parts (text n).toList =
    [(toString (n / 16777216 % 256)).toList, (toString (n / 65536 % 256)).toList,
      (toString (n / 256 % 256)).toList, (toString (n % 256)).toList] := by
  unfold parts
  rw [toList_text, Text.splitOn_append _ not_mem_toString, Text.splitOn_append _ not_mem_toString,
    Text.splitOn_append _ not_mem_toString, Text.splitOn_of_not_mem not_mem_toString]
  simp

-- What an address is written as is read as the same address.
theorem address?_text {n : Nat} : address? (text n).toList = some (n % 4294967296) := by
  have small (m : Nat) : number? (toString (m % 256)).toList = some (m % 256) :=
    number?_toString (Nat.mod_lt m (by decide))
  have numbers : (parts (text n).toList).mapM number? =
      some [n / 16777216 % 256, n / 65536 % 256, n / 256 % 256, n % 256] := by
    simp only [parts_text, List.mapM_cons, List.mapM_nil, small]
    rfl
  unfold address?
  rw [numbers]
  simp
  omega

theorem text_mod {n : Nat} : text (n % 4294967296) = text n := by
  have first : n % 4294967296 / 16777216 % 256 = n / 16777216 % 256 := by omega
  have second : n % 4294967296 / 65536 % 256 = n / 65536 % 256 := by omega
  have third : n % 4294967296 / 256 % 256 = n / 256 % 256 := by omega
  have fourth : n % 4294967296 % 256 = n % 256 := by omega
  unfold text
  rw [first, second, third, fourth]

theorem isSign_of_isDigit {c : Char} (h : c.isDigit) : IsSign c ∧ asciiLower c = c := by
  simp only [Char.isDigit, Bool.and_eq_true, decide_eq_true_eq] at h
  have low : 48 ≤ c.toNat := h.1
  have high : c.toNat ≤ 57 := h.2
  refine ⟨.inl (isAlphanumeric_iff.2 (.inl (isLowerOrDigit_iff.2 (.inr ⟨low, high⟩)))), ?_⟩
  refine Text.asciiLower_eq_self (Bool.eq_false_iff.2 fun upper => ?_)
  have bounds := Text.isAsciiUpper_iff.1 upper
  omega

theorem isSign_of_mem_text {n : Nat} {c : Char} (h : c ∈ (text n).toList) :
    IsSign c ∧ asciiLower c = c := by
  have dot : IsSign '.' ∧ asciiLower '.' = '.' := by decide
  have number (m : Nat) (hc : c ∈ (toString m).toList) : IsSign c ∧ asciiLower c = c :=
    isSign_of_isDigit (isDigit_of_mem_toString hc)
  rw [toList_text] at h
  simp only [List.mem_append, List.mem_cons] at h
  rcases h with h | rfl | h | rfl | h | rfl | h
  all_goals first | exact dot | exact number _ h

end Ipv4

-- A name that an address writes as it was, in lower case: it has a plain form at all, and if it is
-- a number, it is spelt as an address of four numbers is.
structure IsKept (name : List Char) : Prop where
  allowed : (Idna.toAscii? name).isSome
  usual   : Ipv4.endsInNumber (name.map asciiLower) →
    ∃ n, name.map asciiLower = (Ipv4.text n).toList

theorem IsKept.of_plain (signs : ∀ c ∈ name, IsSign c)
    (plain : ∀ label ∈ Idna.labels (name.map asciiLower),
      Idna.punycodeMark.isPrefixOf label = false)
    (word : Ipv4.endsInNumber (name.map asciiLower) = false) : IsKept name where
  allowed := by rw [Idna.toAscii?_plain signs plain]; rfl
  usual h := absurd h (Bool.eq_false_iff.1 word)

theorem ofText?_eq (hn : IsHostName name) : Host.ofText? name =
    (Idna.toAscii? name).bind fun plain =>
      if Ipv4.endsInNumber plain then (Ipv4.address? plain).map .ipv4
      else some (.domain (String.ofList plain)) := by
  have ascii := (IsSign.isPrintable hn.signs).isAscii
  have unescaped : (0x25 : UInt8) ∉ Text.Utf8.encode name := by
    rw [Text.Utf8.encode_ascii ascii, List.mem_map, not_exists]
    intro c ⟨hc, same⟩
    have value : (UInt8.ofNat c.toNat).toNat = 0x25 := by rw [same]; rfl
    rw [UInt8.toNat_ofNat', Nat.mod_eq_of_lt (Nat.lt_trans (ascii c hc) (by decide))] at value
    have percent : c = '%' := by rw [← Char.ofNat_toNat c, value]
    exact absurd (hn.signs c hc) (percent ▸ by decide)
  unfold Host.ofText?
  split
  case h_1 rest => exact absurd (hn.signs '[' (.head _)) (by decide)
  case h_2      =>
    rw [percentDecode_eq_self unescaped, Text.Utf8.decode_encode]
    simp only [Except.toOption, Option.bind_eq_bind, Option.bind_some]
    cases hp : Idna.toAscii? name with
    | none       => rfl
    | some plain =>
      have nonempty : plain.isEmpty = false := by
        rw [Idna.toAscii?_eq ascii hp]
        simp [hn.nonempty]
      simp only [Option.bind_some, nonempty]
      rfl

theorem isKept_iff (hn : IsHostName name) : IsKept name ↔
    ∃ host, Host.ofText? name = some host ∧ host.text.toList = name.map asciiLower := by
  have ascii := (IsSign.isPrintable hn.signs).isAscii
  rw [ofText?_eq hn]
  cases hp : Idna.toAscii? name with
  | none       =>
    refine iff_of_false (fun kept => ?_) (by simp)
    have allowed := kept.allowed
    rw [hp] at allowed
    cases allowed
  | some plain =>
    cases Idna.toAscii?_eq ascii hp
    rw [Option.bind_some]
    split
    case isTrue number =>
      constructor
      case mp  =>
        intro kept
        have ⟨n, same⟩ := kept.usual number
        refine ⟨.ipv4 (n % 4294967296), ?_, ?_⟩
        · rw [same, Ipv4.address?_text]
          rfl
        · rw [same, ← Ipv4.text_mod]
          rfl
      case mpr =>
        intro ⟨host, read, same⟩
        have ⟨n, _, made⟩ := Option.map_eq_some_iff.1 read
        subst made
        exact ⟨by rw [hp]; rfl, fun _ => ⟨n, same.symm⟩⟩
    case isFalse word  =>
      refine iff_of_true ⟨by rw [hp]; rfl, fun h => absurd h word⟩ ⟨_, rfl, ?_⟩
      exact String.toList_ofList

-- However a host is read, it has a name in lower case.
theorem text_of_ofText? {host : Host} (hn : IsHostName name) (h : Host.ofText? name = some host) :
    host.text.toList ≠ [] ∧ ∀ c ∈ host.text.toList, IsSign c ∧ asciiLower c = c := by
  have ascii := (IsSign.isPrintable hn.signs).isAscii
  rw [ofText?_eq hn] at h
  have ⟨plain, hp, h⟩ := Option.bind_eq_some_iff.1 h
  cases Idna.toAscii?_eq ascii hp
  split at h
  case isTrue  =>
    have ⟨n, _, made⟩ := Option.map_eq_some_iff.1 h
    subst made
    refine ⟨?_, fun _ => Ipv4.isSign_of_mem_text⟩
    rw [Host.text, Ipv4.toList_text]
    simp
  case isFalse =>
    cases h
    rw [Host.text, String.toList_ofList]
    refine ⟨by simp [hn.nonempty], fun c hc => ⟨Idna.isSign_of_mem_map hn.signs hc, ?_⟩⟩
    have ⟨d, _, same⟩ := List.mem_map.1 hc
    exact same ▸ Text.asciiLower_asciiLower

-- A port that an address keeps.
inductive IsKeptPort (scheme : String) : List Char → Prop
  | absent : IsKeptPort scheme []
  | given {n : Nat} : (n < 65536) → defaultPort? scheme ≠ some n →
    IsKeptPort scheme (':' :: (toString n).toList)

def portText (port? : Option Nat) : List Char :=
  port?.elim [] fun n => ':' :: (toString n).toList

theorem isKeptPort_iff {scheme : String} {port : List Char} (hp : IsPort port) :
    IsKeptPort scheme port ↔ ∃ port?, portOf? scheme port = some port? ∧ portText port? = port := by
  constructor
  case mp  =>
    intro kept
    cases kept with
    | absent            => exact ⟨none, rfl, rfl⟩
    | given small other =>
      refine ⟨some _, ?_, rfl⟩
      rw [Nat.toString_eq_ofList_toDigits, String.toList_ofList, portOf?,
        Nat.ofDigitChars_ten_toDigits, if_neg (Nat.not_le.2 small), if_neg other]
  case mpr =>
    rintro ⟨port?, read, same⟩
    cases hp with
    | absent    => exact .absent
    | given _ _ =>
      obtain ⟨small, read⟩ := Option.ite_none_left_eq_some.1 read
      cases read
      split at same
      case isTrue        => cases same
      case isFalse other =>
        rw [← same]
        exact .given (Nat.not_le.1 small) other

theorem authorityOf?_eq {scheme : String} {port : List Char} (hn : IsHostName name) :
    authorityOf? scheme name port = (Host.ofText? name).bind fun host =>
      (portOf? scheme port).map fun port? =>
        String.ofList (host.text.toList ++ portText port?) := by
  unfold authorityOf?
  cases hh : Host.ofText? name with
  | none      => rfl
  | some host =>
    cases portOf? scheme port with
    | none       => rfl
    | some port? =>
      have named : host ≠ .domain "" := by
        rintro rfl
        exact (text_of_ofText? hn hh).1 rfl
      simp only [Option.bind_eq_bind, Option.bind_some, Option.map_some, hostAndPort?, if_neg named]
      cases port? with
      | none   => simp [portText]
      | some n => simp [portText, ← String.toList_inj, toString]

theorem IsPort.map_asciiLower {port : List Char} (hp : IsPort port) :
    port.map asciiLower = port := by
  cases hp with
  | absent          => rfl
  | given _ decimal =>
    have digits := List.map_congr_left fun c hc => (Ipv4.isSign_of_isDigit (decimal c hc)).2
    rw [List.map_cons, digits, List.map_id']
    rfl

theorem isPort_portText (port? : Option Nat) : IsPort (portText port?) := by
  cases port? with
  | none   => exact .absent
  | some n => exact .given Ipv4.toString_ne_nil fun _ => Ipv4.isDigit_of_mem_toString

-- The colon of a port is the first one.
theorem IsPort.append_inj {front front' port port' : List Char} (hp : IsPort port)
    (hp' : IsPort port') (hf : ':' ∉ front) (hf' : ':' ∉ front')
    (same : front ++ port = front' ++ port') : front = front' ∧ port = port' := by
  have stop {port : List Char} (hp : IsPort port) : port.takeWhile (· ≠ ':') = [] := by
    cases hp <;> rfl
  have fronts := congrArg (List.takeWhile (· ≠ ':')) same
  rw [Text.takeWhile_ne_append _ hf, Text.takeWhile_ne_append _ hf', stop hp, stop hp',
    List.append_nil, List.append_nil] at fronts
  subst fronts
  exact ⟨rfl, List.append_cancel_left same⟩

-- The host and the port that an address has are those that it was written with, up to capitals.
theorem authorityOf?_iff {scheme : String} {port : List Char} (hn : IsHostName name)
    (hp : IsPort port) :
    (∃ t, authorityOf? scheme name port = some t ∧
      (Text.lower t).toList = (name ++ port).map asciiLower) ↔
    IsKept name ∧ IsKeptPort scheme port := by
  rw [isKept_iff hn, isKeptPort_iff hp, authorityOf?_eq hn]
  have plain : ':' ∉ name.map asciiLower := fun hc =>
    absurd (Idna.isSign_of_mem_map hn.signs hc) (by decide)
  have written {host : Host} (hh : Host.ofText? name = some host) (port? : Option Nat) :
      (Text.lower (String.ofList (host.text.toList ++ portText port?))).toList =
        host.text.toList ++ portText port? := by
    have ⟨_, shown⟩ := text_of_ofText? hn hh
    have stable := List.map_congr_left fun c hc => (shown c hc).2
    have printable := (IsSign.isPrintable fun c hc => (shown c hc).1).append
      (isPort_portText port?).isPrintable
    rw [← String.toList_ofList (l := _ ++ _)] at printable
    rw [Text.toList_lower printable.isAscii, String.toList_ofList, List.map_append,
      (isPort_portText port?).map_asciiLower, stable, List.map_id']
  rw [List.map_append, hp.map_asciiLower]
  constructor
  case mp  =>
    intro ⟨t, read, same⟩
    have ⟨host, hh, read⟩ := Option.bind_eq_some_iff.1 read
    have ⟨port?, hport, made⟩ := Option.map_eq_some_iff.1 read
    rw [← made, written hh] at same
    have other : ':' ∉ host.text.toList := fun hc =>
      absurd ((text_of_ofText? hn hh).2 _ hc).1 (by decide)
    have ⟨hosts, ports⟩ := (isPort_portText _).append_inj hp other plain same
    exact ⟨⟨host, hh, hosts⟩, port?, hport, ports⟩
  case mpr =>
    intro ⟨⟨host, hh, hosts⟩, port?, hport, ports⟩
    refine ⟨_, by rw [hh, Option.bind_some, hport, Option.map_some], ?_⟩
    rw [written hh, hosts, ports]

end ArtifactSync.Url

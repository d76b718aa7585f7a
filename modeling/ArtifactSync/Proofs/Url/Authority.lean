import ArtifactSync.Proofs.Registry.Sign
import ArtifactSync.Url.Basic

namespace ArtifactSync.Url

open Registry (IsSign)

variable {name port digits tail rest : List Char} {c d : Char} {scheme : String} {special : Bool}

structure IsHostName (name : List Char) : Prop where
  nonempty : name ≠ []
  signs    : ∀ c ∈ name, IsSign c

-- A port as it stands behind a host, if there is one.
inductive IsPort : List Char → Prop
  | absent : IsPort []
  | given {digits : List Char} : (digits ≠ []) → (∀ c ∈ digits, c.isDigit) → IsPort (':' :: digits)

-- What may follow a host and its port.
def IsTail (tail : List Char) : Prop :=
  ∀ c ∈ tail.head?, endsAuthority true c

theorem endsAuthority_of_isSign (h : IsSign c) : endsAuthority special c = false := by
  have slash := h.ne (d := '/') (by decide)
  have backslash := h.ne (d := '\\') (by decide)
  have question := h.ne (d := '?') (by decide)
  have hash := h.ne (d := '#') (by decide)
  simp [Url.endsAuthority, isSlash, slash, backslash, question, hash]

theorem endsAuthority_of_isDigit (h : c.isDigit) : endsAuthority special c = false := by
  have other {d : Char} (hd : d.isDigit = false) : c ≠ d := by
    rintro rfl
    exact absurd h (Bool.eq_false_iff.1 hd)
  simp [Url.endsAuthority, isSlash, other (d := '/') rfl, other (d := '\\') rfl,
    other (d := '?') rfl, other (d := '#') rfl]

theorem IsHostName.not_mem (h : IsHostName name) (hd : ¬IsSign d) : d ∉ name :=
  fun mem => hd (h.signs d mem)

theorem spanHost_append (signs : ∀ c ∈ name, IsSign c)
    (ends : ∀ c ∈ rest.head?, c = ':' ∨ endsAuthority special c) :
    spanHost special false (name ++ rest) = (name, rest) := by
  induction name with
  | nil            =>
    cases rest with
    | nil      => rfl
    | cons c _ =>
      rw [List.nil_append, spanHost, if_pos]
      simpa using ends c rfl
  | cons c name hi =>
    have ⟨sign, signs⟩ := List.forall_mem_cons.1 signs
    have colon := sign.ne (d := ':') (by decide)
    have left := sign.ne (d := '[') (by decide)
    have right := sign.ne (d := ']') (by decide)
    rw [List.cons_append, spanHost, if_neg (by simp [colon, endsAuthority_of_isSign sign]),
      if_neg left, if_neg right]
    dsimp only
    rw [hi signs]

-- What an address keeps of a port: the scheme's own is left out, and some are no ports.
def portOf? (scheme : String) : List Char → Option (Option Nat)
  | [] => some none
  | _ :: digits =>
    let n := Nat.ofDigitChars 10 digits 0
    if 65536 ≤ n then none else some (if defaultPort? scheme = some n then none else some n)

theorem foldl_digits : digits.foldl (fun n c => n * 10 + (c.toNat - '0'.toNat)) 0 =
    Nat.ofDigitChars 10 digits 0 := by
  simp only [Nat.ofDigitChars_eq_foldl, Nat.mul_comm]

theorem readPort?_append (nonempty : digits ≠ []) (decimal : ∀ c ∈ digits, c.isDigit)
    (ends : IsTail tail) :
    readPort? scheme (digits ++ tail) = (portOf? scheme (':' :: digits)).map (·, tail) := by
  have stop : tail.takeWhile Char.isDigit = [] := by
    cases tail with
    | nil      => rfl
    | cons c _ =>
      rw [List.takeWhile_cons, if_neg]
      intro digit
      have ended := ends c rfl
      rw [endsAuthority_of_isDigit digit] at ended
      cases ended
  have front : (digits ++ tail).takeWhile Char.isDigit = digits := by
    rw [List.takeWhile_append_of_pos decimal, stop, List.append_nil]
  have ended : tail.head?.all (endsAuthority true) = true := by
    simpa [IsTail, Option.all_eq_true] using ends
  unfold readPort?
  dsimp only
  rw [front, List.drop_left, foldl_digits, ended, portOf?]
  simp only [Bool.not_true, Bool.false_or, decide_eq_true_eq, Bool.or_eq_true,
    List.isEmpty_iff, nonempty, false_or]
  split
  · rfl
  · split <;> rfl

theorem IsPort.endsAuthority (special : Bool) (h : IsPort port) (hc : c ∈ port) :
    Url.endsAuthority special c = false ∧ c ≠ '@' := by
  cases h with
  | absent          => cases hc
  | given _ decimal =>
    cases hc with
    | head    => simp [Url.endsAuthority, isSlash]
    | tail _ hc =>
      refine ⟨endsAuthority_of_isDigit (decimal c hc), ?_⟩
      rintro rfl
      exact absurd (decimal _ hc) (by decide)

-- Nobody is named in front of the host.
theorem splitUserinfo_append (hn : IsHostName name) (hp : IsPort port) (ends : IsTail tail) :
    splitUserinfo true (name ++ port ++ tail) = (none, name ++ port ++ tail) := by
  have inner (c : Char) (hc : c ∈ name ++ port) : (!endsAuthority true c) = true := by
    rw [Bool.not_eq_true']
    exact (List.mem_append.1 hc).elim (fun hc => endsAuthority_of_isSign (hn.signs c hc))
      fun hc => (hp.endsAuthority true hc).1
  have stop : tail.takeWhile (!endsAuthority true ·) = [] := by
    cases tail with
    | nil      => rfl
    | cons c _ => rw [List.takeWhile_cons, if_neg (by simp [ends c rfl])]
  have anonymous : '@' ∉ (name ++ port).reverse := by
    rw [List.mem_reverse, List.mem_append, not_or]
    exact ⟨hn.not_mem (by decide), fun hc => (hp.endsAuthority true hc).2 rfl⟩
  unfold splitUserinfo
  dsimp only
  rw [List.takeWhile_append_of_pos inner, stop, List.append_nil, Text.takeWhile_ne_self anonymous,
    if_pos (by simp)]

theorem readHostAndPort?_append (special : isSpecial scheme) (hn : IsHostName name)
    (hp : IsPort port) (ends : IsTail tail) :
    readHostAndPort? scheme (name ++ port ++ tail) =
      (Host.ofText? name).bind fun host => (portOf? scheme port).map (host, ·, tail) := by
  have nonempty : name.isEmpty = false := by simp [hn.nonempty]
  have behind : ∀ c ∈ (port ++ tail).head?, c = ':' ∨ endsAuthority true c := by
    cases hp with
    | absent    => exact fun c hc => .inr (ends c hc)
    | given _ _ => simp
  unfold readHostAndPort?
  dsimp only
  rw [special, List.append_assoc, spanHost_append hn.signs behind]
  simp only [nonempty, Bool.false_and, Bool.false_eq_true, if_false, if_true]
  cases Host.ofText? name with
  | none      => rfl
  | some host =>
    cases hp with
    | absent                 =>
      cases tail with
      | nil      => rfl
      | cons c _ =>
        have colon : c ≠ ':' := by
          rintro rfl
          exact absurd (ends ':' rfl) (by decide)
        simp only [List.nil_append, portOf?, Option.map_some]
        split
        case h_1 same => cases same; exact absurd rfl colon
        case h_2      => rfl
    | given nonempty decimal =>
      rw [List.cons_append]
      simp only [readPort?_append nonempty decimal ends]
      cases portOf? scheme (':' :: _) <;> rfl

theorem hostAndPort?_withFragment {u : Url} :
    (withTail.withFragment u rest).hostAndPort? = u.hostAndPort? := by
  unfold withTail.withFragment
  split <;> rfl

theorem hostAndPort?_withTail {u : Url} : (withTail u rest).hostAndPort? = u.hostAndPort? := by
  unfold withTail
  split
  · exact hostAndPort?_withFragment
  · exact hostAndPort?_withFragment

theorem hostAndPort?_withPath {u : Url} {front : List String} :
    (withPath u front rest).hostAndPort? = u.hostAndPort? :=
  hostAndPort?_withTail

-- What follows the authority is of no account for the host.
theorem hostAndPort?_withRootedPath {u : Url} :
    (withRootedPath u rest).hostAndPort? = u.hostAndPort? := by
  unfold withRootedPath
  split
  · split
    · exact hostAndPort?_withPath
    · split
      · exact hostAndPort?_withPath
      · exact hostAndPort?_withTail
  · split <;> rfl

-- What an address has for a host and a port.
def authorityOf? (scheme : String) (name port : List Char) : Option String := do
  let host ← Host.ofText? name
  let port ← portOf? scheme port
  Url.hostAndPort? { scheme, host? := some host, port? := port }

theorem hostAndPort?_readAuthority? (special : isSpecial scheme) (hn : IsHostName name)
    (hp : IsPort port) (ends : IsTail tail) :
    (readAuthority? scheme (name ++ port ++ tail)).bind (·.hostAndPort?) =
      authorityOf? scheme name port := by
  unfold readAuthority? authorityOf?
  rw [special, splitUserinfo_append hn hp ends]
  dsimp only
  rw [readHostAndPort?_append special hn hp ends]
  cases Host.ofText? name with
  | none      => rfl
  | some host =>
    cases portOf? scheme port with
    | none   => rfl
    | some p => exact hostAndPort?_withRootedPath

theorem dropWhile_of_forall_not {cs : List Char} {p : Char → Bool} (h : ∀ c ∈ cs, p c = false) :
    cs.dropWhile p = cs := by
  cases cs with
  | nil      => rfl
  | cons c _ => rw [List.dropWhile_cons, h c List.mem_cons_self, if_neg Bool.false_ne_true]

theorem clean_eq_self {cs : List Char} (h : Text.IsPrintable cs) : clean cs = cs := by
  have inner (c : Char) (hc : c ∈ cs) : decide (c.toNat ≤ 0x20) = false :=
    decide_eq_false (Nat.not_le.2 (h c hc).1)
  have kept (c : Char) (hc : c ∈ cs) :
      (decide (c ≠ '\t') && decide (c ≠ '\n') && decide (c ≠ '\r')) = true := by
    have other {d : Char} (hd : d.toNat ≤ 0x20) : c ≠ d := by
      rintro rfl
      exact absurd hd (Nat.not_le.2 (h c hc).1)
    simp [other (d := '\t') (by decide), other (d := '\n') (by decide),
      other (d := '\r') (by decide)]
  unfold clean
  dsimp only
  rw [dropWhile_of_forall_not inner,
    dropWhile_of_forall_not fun c hc => inner c (List.mem_reverse.1 hc), List.reverse_reverse,
    List.filter_eq_self.2 kept]

theorem IsPort.isPrintable (h : IsPort port) : Text.IsPrintable port := by
  cases h with
  | absent          => exact fun _ hc => nomatch hc
  | given _ decimal =>
    intro c hc
    cases hc with
    | head      => decide
    | tail _ hc =>
      have digit := decimal c hc
      simp only [Char.isDigit, Bool.and_eq_true, decide_eq_true_eq] at digit
      have low : 48 ≤ c.toNat := digit.1
      have high : c.toNat ≤ 57 := digit.2
      omega

variable (hs : scheme = "http" ∨ scheme = "https")

include hs in
theorem isPrintable_scheme : Text.IsPrintable (scheme.toList ++ "://".toList) := by
  cases hs with
  | inl plain  => subst plain; decide
  | inr secure => subst secure; decide

include hs in
theorem splitScheme?_append :
    splitScheme? (scheme.toList ++ "://".toList ++ rest) = some (scheme, '/' :: '/' :: rest) := by
  cases hs with
  | inl plain  => subst plain; rfl
  | inr secure => subst secure; rfl

include hs in
theorem hostAndPort?_readFrom? (hn : IsHostName name) (hp : IsPort port) (ends : IsTail tail)
    (printable : Text.IsPrintable tail) :
    (readFrom? none (scheme.toList ++ "://".toList ++ (name ++ port ++ tail))).bind
      (·.hostAndPort?) = authorityOf? scheme name port := by
  have shown := (isPrintable_scheme hs).append
    (((IsSign.isPrintable hn.signs).append hp.isPrintable).append printable)
  have network : isFile scheme = false ∧ isSpecial scheme := by
    cases hs with
    | inl plain  => subst plain; decide
    | inr secure => subst secure; decide
  have slashes : ('/' :: '/' :: (name ++ port ++ tail)).takeWhile (isSlash true) = ['/', '/'] := by
    cases hc : name with
    | nil      => exact absurd hc hn.nonempty
    | cons c _ =>
      have sign := hn.signs c (hc ▸ List.mem_cons_self)
      have slash := sign.ne (d := '/') (by decide)
      have backslash := sign.ne (d := '\\') (by decide)
      simp [isSlash, slash, backslash]
  unfold readFrom?
  dsimp only
  rw [clean_eq_self shown, splitScheme?_append hs]
  dsimp only
  rw [network.1, network.2, slashes]
  exact hostAndPort?_readAuthority? network.2 hn hp ends

end ArtifactSync.Url

import ArtifactSync.Text.Utf8

namespace ArtifactSync

namespace Text.Utf8

section

variable {c : Char} {cs cs' read : List Char} {index a b d e : Nat} {rest : Bytes}

theorem encode_append : encode (cs ++ cs') = encode cs ++ encode cs' :=
  List.flatMap_append

theorem encode_cons : encode (c :: cs) = String.utf8EncodeChar c ++ encode cs :=
  List.flatMap_cons

-- The bytes of a sequence behind the first one.
def Continues (b : Nat) : Prop :=
  0x80 ≤ b ∧ b ≤ 0xBF

theorem continues_mod {n : Nat} : Continues (n % 64 + 128) := by
  unfold Continues
  omega

theorem Continues.isContinuation (hb : Continues b) : isContinuation (UInt8.ofNat b) := by
  unfold Continues at hb
  simp (disch := omega) [Utf8.isContinuation, UInt8.le_iff_toNat_le, Nat.mod_eq_of_lt, hb]

theorem Continues.tail (hb : Continues b) : tail (UInt8.ofNat b) = b % 64 := by
  unfold Continues at hb
  simp (disch := omega) [Utf8.tail, Nat.mod_eq_of_lt]

theorem isSecond_ofNat (ha : a < 256) (hb : Continues b) (low : a = 0xE0 → 0xA0 ≤ b)
    (surrogate : a = 0xED → b ≤ 0x9F) (short : a = 0xF0 → 0x90 ≤ b) (last : a = 0xF4 → b ≤ 0x8F) :
    isSecond (UInt8.ofNat a) (UInt8.ofNat b) := by
  unfold isSecond
  rw [hb.isContinuation]
  unfold Continues at hb
  simp (disch := omega) only [← UInt8.toNat_inj, UInt8.le_iff_toNat_le, UInt8.toNat_ofNat',
    Nat.mod_eq_of_lt, UInt8.reduceToNat]
  grind

theorem decodeFrom_one (ha : a < 0x80) : decodeFrom index read (UInt8.ofNat a :: rest) =
    decodeFrom (index + 1) (Char.ofNat a :: read) rest := by
  rw [decodeFrom.eq_def]
  simp (disch := omega) [UInt8.lt_iff_toNat_lt, Nat.mod_eq_of_lt, ha]

theorem decodeFrom_two (ha : 0xC2 ≤ a ∧ a < 0xE0) (hb : Continues b) :
    decodeFrom index read (UInt8.ofNat a :: UInt8.ofNat b :: rest) =
      decodeFrom (index + 2) (Char.ofNat ((a - 0xC0) * 64 + b % 64) :: read) rest := by
  have one : ¬a < 0x80 := by omega
  have none : ¬a < 0xC2 := by omega
  rw [decodeFrom.eq_def]
  simp (disch := omega) [UInt8.lt_iff_toNat_lt, Nat.mod_eq_of_lt, one, none, ha,
    hb.isContinuation, hb.tail]

theorem decodeFrom_three (ha : 0xE0 ≤ a ∧ a < 0xF0) (hb : Continues b) (hd : Continues d)
    (second : isSecond (UInt8.ofNat a) (UInt8.ofNat b)) :
    decodeFrom index read (UInt8.ofNat a :: UInt8.ofNat b :: UInt8.ofNat d :: rest) =
      decodeFrom (index + 3)
        (Char.ofNat (((a - 0xE0) * 64 + b % 64) * 64 + d % 64) :: read) rest := by
  have one : ¬a < 0x80 := by omega
  have none : ¬a < 0xC2 := by omega
  have two : ¬a < 0xE0 := by omega
  rw [decodeFrom.eq_def]
  simp (disch := omega) [UInt8.lt_iff_toNat_lt, Nat.mod_eq_of_lt, one, none, two, ha, second,
    hb.tail, hd.isContinuation, hd.tail]

theorem decodeFrom_four (ha : 0xF0 ≤ a ∧ a < 0xF5) (hb : Continues b) (hd : Continues d)
    (he : Continues e) (second : isSecond (UInt8.ofNat a) (UInt8.ofNat b)) :
    decodeFrom index read
        (UInt8.ofNat a :: UInt8.ofNat b :: UInt8.ofNat d :: UInt8.ofNat e :: rest) =
      decodeFrom (index + 4)
        (Char.ofNat ((((a - 0xF0) * 64 + b % 64) * 64 + d % 64) * 64 + e % 64) :: read) rest := by
  have one : ¬a < 0x80 := by omega
  have none : ¬a < 0xC2 := by omega
  have two : ¬a < 0xE0 := by omega
  have three : ¬a < 0xF0 := by omega
  rw [decodeFrom.eq_def]
  simp (disch := omega) [UInt8.lt_iff_toNat_lt, Nat.mod_eq_of_lt, one, none, two, three, ha,
    second, hb.tail, hd.isContinuation, hd.tail, he.isContinuation, he.tail]

-- One case for each number of bytes. No other first byte spells the character, as none of them is
-- below what so many bytes are for, and no surrogate is one.
theorem decodeFrom_encodeChar : decodeFrom index read (String.utf8EncodeChar c ++ rest) =
    decodeFrom (index + (String.utf8EncodeChar c).length) (c :: read) rest := by
  have valid : c.toNat < 0xD800 ∨ 0xDFFF < c.toNat ∧ c.toNat < 0x110000 := c.valid
  have same : Char.ofNat c.toNat = c := Char.ofNat_toNat c
  have value : c.val.toNat = c.toNat := rfl
  unfold String.utf8EncodeChar
  rw [value]
  generalize c.toNat = n at *
  dsimp only
  split
  case isTrue h =>
    rw [List.singleton_append, decodeFrom_one (by omega), same]
    rfl
  split
  case isTrue h =>
    have whole : (n / 64 % 32 + 192 - 0xC0) * 64 + (n % 64 + 128) % 64 = n := by omega
    simp only [List.cons_append, List.nil_append]
    rw [decodeFrom_two (by omega) continues_mod, whole, same]
    rfl
  split
  case isTrue h =>
    have whole : ((n / 4096 % 16 + 224 - 0xE0) * 64 + (n / 64 % 64 + 128) % 64) * 64 +
      (n % 64 + 128) % 64 = n := by omega
    simp only [List.cons_append, List.nil_append]
    have second := isSecond_ofNat (a := n / 4096 % 16 + 224) (b := n / 64 % 64 + 128) (by omega)
      continues_mod (by omega) (by omega) (by omega) (by omega)
    rw [decodeFrom_three (by omega) continues_mod continues_mod second, whole, same]
    rfl
  case isFalse h =>
    have whole : (((n / 262144 % 8 + 240 - 0xF0) * 64 + (n / 4096 % 64 + 128) % 64) * 64 +
      (n / 64 % 64 + 128) % 64) * 64 + (n % 64 + 128) % 64 = n := by omega
    simp only [List.cons_append, List.nil_append]
    have second := isSecond_ofNat (a := n / 262144 % 8 + 240) (b := n / 4096 % 64 + 128) (by omega)
      continues_mod (by omega) (by omega) (by omega) (by omega)
    rw [decodeFrom_four (by omega) continues_mod continues_mod continues_mod second, whole, same]
    rfl

theorem decodeFrom_encode : decodeFrom index read (encode cs ++ rest) =
    decodeFrom (index + (encode cs).length) (cs.reverse ++ read) rest := by
  induction cs generalizing index read with
  | nil          => rfl
  | cons c cs hi =>
    rw [encode_cons, List.append_assoc, decodeFrom_encodeChar, hi, List.length_append,
      Nat.add_assoc]
    simp

theorem decode_encode : decode (encode cs) = .ok cs := by
  have read : decodeFrom 0 [] (encode cs ++ []) = _ := decodeFrom_encode
  simpa [decode, decodeFrom] using read

end

section

variable {a b d e : UInt8} {c : Char} {cs read : List Char} {index n : Nat} {bytes : Bytes}

-- The other way round: the bytes of a sequence that is accepted are those of its character.

theorem toNat_ofNat (valid : n.isValidChar) : (Char.ofNat n).val.toNat = n := by
  rw [Char.ofNat, dif_pos valid]
  rfl

theorem ofNat_eq (h : n = b.toNat) : UInt8.ofNat n = b := by
  rw [h, UInt8.ofNat_toNat]

theorem continues_of_isContinuation (hb : isContinuation b) : Continues b.toNat := by
  unfold Continues
  simpa [isContinuation, UInt8.le_iff_toNat_le] using hb

-- What a second byte is restricted to.
theorem bounds_of_isSecond (h : isSecond a b) : Continues b.toNat ∧
    (a.toNat = 0xE0 → 0xA0 ≤ b.toNat) ∧ (a.toNat = 0xED → b.toNat ≤ 0x9F) ∧
    (a.toNat = 0xF0 → 0x90 ≤ b.toNat) ∧ (a.toNat = 0xF4 → b.toNat ≤ 0x8F) := by
  unfold isSecond isContinuation at h
  simp only [← UInt8.toNat_inj, UInt8.le_iff_toNat_le, UInt8.reduceToNat] at h
  unfold Continues
  repeat' split at h
  all_goals
    rw [Bool.and_eq_true, decide_eq_true_eq, decide_eq_true_eq] at h
    omega

theorem encodeChar_one (ha : a.toNat < 0x80) :
    String.utf8EncodeChar (Char.ofNat a.toNat) = [a] := by
  have value := toNat_ofNat (n := a.toNat) (.inl (by omega))
  unfold String.utf8EncodeChar
  dsimp only
  rw [value, if_pos (by omega), ofNat_eq rfl]

theorem encodeChar_two (low : 0xC2 ≤ a.toNat) (high : a.toNat < 0xE0) (hb : Continues b.toNat) :
    String.utf8EncodeChar (Char.ofNat ((a.toNat - 0xC0) * 64 + tail b)) = [a, b] := by
  unfold Continues at hb
  unfold tail
  have value := toNat_ofNat (n := (a.toNat - 0xC0) * 64 + b.toNat % 64) (.inl (by omega))
  unfold String.utf8EncodeChar
  dsimp only
  rw [value, if_neg (by omega), if_pos (by omega), ofNat_eq (b := a) (by omega),
    ofNat_eq (b := b) (by omega)]

theorem encodeChar_three (low : 0xE0 ≤ a.toNat) (high : a.toNat < 0xF0) (second : isSecond a b)
    (hd : Continues d.toNat) :
    String.utf8EncodeChar (Char.ofNat (((a.toNat - 0xE0) * 64 + tail b) * 64 + tail d)) =
      [a, b, d] := by
  have ⟨hb, short, surrogate, _, _⟩ := bounds_of_isSecond second
  unfold Continues at hb hd
  unfold tail
  have value := toNat_ofNat (n := ((a.toNat - 0xE0) * 64 + b.toNat % 64) * 64 + d.toNat % 64)
    (by unfold Nat.isValidChar; omega)
  unfold String.utf8EncodeChar
  dsimp only
  rw [value, if_neg (by omega), if_neg (by omega), if_pos (by omega), ofNat_eq (b := a) (by omega),
    ofNat_eq (b := b) (by omega), ofNat_eq (b := d) (by omega)]

theorem encodeChar_four (low : 0xF0 ≤ a.toNat) (high : a.toNat < 0xF5) (second : isSecond a b)
    (hd : Continues d.toNat) (he : Continues e.toNat) :
    String.utf8EncodeChar
        (Char.ofNat ((((a.toNat - 0xF0) * 64 + tail b) * 64 + tail d) * 64 + tail e)) =
      [a, b, d, e] := by
  have ⟨hb, _, _, short, last⟩ := bounds_of_isSecond second
  unfold Continues at hb hd he
  unfold tail
  have value := toNat_ofNat
    (n := (((a.toNat - 0xF0) * 64 + b.toNat % 64) * 64 + d.toNat % 64) * 64 + e.toNat % 64)
    (by unfold Nat.isValidChar; omega)
  unfold String.utf8EncodeChar
  dsimp only
  rw [value, if_neg (by omega), if_neg (by omega), if_neg (by omega), ofNat_eq (b := a) (by omega),
    ofNat_eq (b := b) (by omega), ofNat_eq (b := d) (by omega), ofNat_eq (b := e) (by omega)]

-- One character is read, and the others after it.
theorem exists_encode_cons {front rest : Bytes} (here : String.utf8EncodeChar c = front)
    (there : ∃ more, cs = (c :: read).reverse ++ more ∧ rest = encode more) :
    ∃ more, cs = read.reverse ++ more ∧ front ++ rest = encode more := by
  have ⟨more, whole, split⟩ := there
  rw [List.reverse_cons, List.append_assoc] at whole
  exact ⟨c :: more, whole, by rw [encode_cons, here, split]⟩

theorem eq_encode_of_decodeFrom (h : decodeFrom index read bytes = .ok cs) :
    ∃ more, cs = read.reverse ++ more ∧ bytes = encode more := by
  fun_induction decodeFrom index read bytes with
  | case1                              => exact ⟨[], by simpa using (Except.ok.inj h).symm, rfl⟩
  | case2 _ _ a rest one hi            =>
    exact exists_encode_cons (encodeChar_one (UInt8.lt_iff_toNat_lt.1 one)) (hi h)
  | case6 _ _ a _ low high b rest hb hi =>
    have low : 0xC2 ≤ a.toNat := UInt8.le_iff_toNat_le.1 (UInt8.not_lt.1 low)
    have hb : isContinuation b := by simpa using hb
    exact exists_encode_cons (encodeChar_two low (UInt8.lt_iff_toNat_lt.1 high)
      (continues_of_isContinuation hb)) (hi h)
  | case11 _ _ a _ _ low high b d rest hb hd hi =>
    have low : 0xE0 ≤ a.toNat := UInt8.le_iff_toNat_le.1 (UInt8.not_lt.1 low)
    have hb : isSecond a b := by simpa using hb
    have hd : isContinuation d := by simpa using hd
    exact exists_encode_cons (encodeChar_three low (UInt8.lt_iff_toNat_lt.1 high) hb
      (continues_of_isContinuation hd)) (hi h)
  | case18 _ _ a _ _ _ low high b d e rest hb hd he hi =>
    have low : 0xF0 ≤ a.toNat := UInt8.le_iff_toNat_le.1 (UInt8.not_lt.1 low)
    have hb : isSecond a b := by simpa using hb
    have hd : isContinuation d := by simpa using hd
    have he : isContinuation e := by simpa using he
    exact exists_encode_cons (encodeChar_four low (UInt8.lt_iff_toNat_lt.1 high) hb
      (continues_of_isContinuation hd) (continues_of_isContinuation he)) (hi h)
  | _ => cases h

theorem decode_eq_ok_iff : decode bytes = .ok cs ↔ bytes = encode cs := by
  constructor
  case mp  =>
    intro h
    have ⟨more, whole, split⟩ := eq_encode_of_decodeFrom h
    rw [split, whole]
    rfl
  case mpr =>
    intro h
    rw [h, decode_encode]

end

end Text.Utf8

theorem bytesOf_inj {s t : String} (h : bytesOf s = bytesOf t) : s = t := by
  have told (s : String) : Text.Utf8.decode (bytesOf s) = .ok s.toList := Text.Utf8.decode_encode
  exact String.toList_inj.1 (Except.ok.inj ((told s).symm.trans (h ▸ told t)))

end ArtifactSync

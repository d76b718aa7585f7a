import ArtifactSync.Json.Value
import ArtifactSync.Proofs.Text.Ascii

namespace ArtifactSync.Json

open Text.Utf8 (encode encode_append encode_cons)

variable {place n : Nat} {read bytes rest tail : Bytes} {c : Char} {cs : List Char} {s : String}

namespace Lexeme

-- A byte that stands for itself in a string.
def IsPlain (b : UInt8) : Prop :=
  b ≠ 0x22 ∧ ¬b < 0x20 ∧ b ≠ 0x5C

theorem readString_plain (plain : ∀ b ∈ bytes, IsPlain b) :
    readString place read (bytes ++ rest) =
      readString (place + bytes.length) (bytes.reverse ++ read) rest := by
  induction bytes generalizing place read with
  | nil           => rfl
  | cons b bs hi =>
    have ⟨⟨quote, control, backslash⟩, others⟩ := List.forall_mem_cons.1 plain
    rw [List.cons_append, readString.eq_def]
    dsimp only
    rw [if_neg quote, if_neg control, if_pos backslash, hi others, List.length_cons,
      Nat.add_assoc, Nat.add_comm 1]
    simp

theorem skipString_plain (plain : ∀ b ∈ bytes, IsPlain b) :
    skipString place (bytes ++ rest) = skipString (place + bytes.length) rest := by
  induction bytes generalizing place with
  | nil           => rfl
  | cons b bs hi =>
    have ⟨⟨quote, control, backslash⟩, others⟩ := List.forall_mem_cons.1 plain
    rw [List.cons_append, skipString.eq_def]
    dsimp only
    rw [if_neg quote, if_neg control, if_pos backslash, hi others, List.length_cons,
      Nat.add_assoc, Nat.add_comm 1]

-- A byte behind a backslash that stands for another one.
theorem readString_escape {e b : UInt8} (h : escape? e = some b) :
    readString place read (0x5C :: e :: rest) = readString (place + 2) (b :: read) rest := by
  rw [readString.eq_def]
  simp [h]

theorem skipString_escape {e b : UInt8} (h : escape? e = some b) :
    skipString place (0x5C :: e :: rest) = skipString (place + 2) rest := by
  rw [skipString.eq_def]
  simp [h]

-- The four digits of a control character.
theorem readString_unit {h₁ h₂ h₃ h₄ : UInt8} (h : hexUnit? h₁ h₂ h₃ h₄ = some n)
    (low : n < 0x20) :
    readString place read (0x5C :: 0x75 :: h₁ :: h₂ :: h₃ :: h₄ :: rest) =
      readString (place + 6) (pushCodePoint n read) rest := by
  have lone : isLowSurrogate n = false := by
    simp only [isLowSurrogate, Bool.and_eq_false_iff, decide_eq_false_iff_not]
    omega
  have pair : isHighSurrogate n = false := by
    simp only [isHighSurrogate, Bool.and_eq_false_iff, decide_eq_false_iff_not]
    omega
  rw [readString.eq_def]
  simp [show escape? 0x75 = none by decide, h, lone, pair]

theorem skipString_unit {h₁ h₂ h₃ h₄ : UInt8} (h : hexUnit? h₁ h₂ h₃ h₄ = some n) :
    skipString place (0x5C :: 0x75 :: h₁ :: h₂ :: h₃ :: h₄ :: rest) =
      skipString (place + 6) rest := by
  rw [skipString.eq_def]
  simp [show escape? 0x75 = none by decide, h]

-- The bytes of a character beyond ASCII are all beyond it.
theorem le_of_mem_encodeChar (h : 0x80 ≤ c.toNat) {b : UInt8} (hb : b ∈ String.utf8EncodeChar c) :
    0x80 ≤ b.toNat := by
  have value : c.val.toNat = c.toNat := rfl
  have valid : c.toNat < 0xD800 ∨ 0xDFFF < c.toNat ∧ c.toNat < 0x110000 := c.valid
  unfold String.utf8EncodeChar at hb
  rw [value] at hb
  generalize c.toNat = n at *
  dsimp only at hb
  rw [if_neg (by omega)] at hb
  have bounds : ∃ m, b = UInt8.ofNat m ∧ 0x80 ≤ m ∧ m < 256 := by
    split at hb
    case isTrue =>
      simp only [List.mem_cons, List.not_mem_nil, or_false] at hb
      rcases hb with rfl | rfl
      all_goals exact ⟨_, rfl, by omega, by omega⟩
    split at hb
    case isTrue =>
      simp only [List.mem_cons, List.not_mem_nil, or_false] at hb
      rcases hb with rfl | rfl | rfl
      all_goals exact ⟨_, rfl, by omega, by omega⟩
    case isFalse =>
      simp only [List.mem_cons, List.not_mem_nil, or_false] at hb
      rcases hb with rfl | rfl | rfl | rfl
      all_goals exact ⟨_, rfl, by omega, by omega⟩
  have ⟨m, same, low, high⟩ := bounds
  rw [same, UInt8.toNat_ofNat', Nat.mod_eq_of_lt high]
  exact low

theorem isPlain_of_mem_encodeChar (control : ¬c.toNat < 0x20) (quote : c ≠ '"')
    (backslash : c ≠ '\\') {b : UInt8} (hb : b ∈ String.utf8EncodeChar c) : IsPlain b := by
  by_cases ascii : c.toNat < 0x80
  case pos =>
    rw [Text.Utf8.encodeChar_ascii ascii, List.mem_singleton] at hb
    have value : b.toNat = c.toNat := by
      rw [hb, UInt8.toNat_ofNat', Nat.mod_eq_of_lt (by omega)]
    have other {d : Char} (hd : c ≠ d) : b.toNat ≠ d.toNat := by
      intro same
      exact hd (Char.ext (UInt32.toNat_inj.1 (value.symm.trans same)))
    refine ⟨fun same => other quote (same ▸ rfl), fun low => ?_,
      fun same => other backslash (same ▸ rfl)⟩
    rw [UInt8.lt_iff_toNat_lt, value] at low
    exact control low
  case neg =>
    have large := le_of_mem_encodeChar (Nat.not_lt.1 ascii) hb
    refine ⟨?_, fun low => ?_, ?_⟩
    · rintro rfl; exact absurd large (by decide)
    · rw [UInt8.lt_iff_toNat_lt] at low
      exact absurd low (Nat.not_lt.2 (Nat.le_trans (by decide) large))
    · rintro rfl; exact absurd large (by decide)

-- The ways in which a character is written in a string.
inductive IsEscaped (c : Char) : Bytes → Prop
  | short {e b : UInt8} : (escape? e = some b) → String.utf8EncodeChar c = [b] →
    IsEscaped c [0x5C, e]
  | unit {h l : UInt8} : (c.toNat < 0x20) → hexUnit? 0x30 0x30 h l = some c.toNat →
    IsEscaped c [0x5C, 0x75, 0x30, 0x30, h, l]
  | plain : (∀ b ∈ String.utf8EncodeChar c, IsPlain b) → IsEscaped c (String.utf8EncodeChar c)

theorem isEscaped_unit (low : c.toNat < 0x20) :
    IsEscaped c (encode ('\\' :: 'u' :: '0' :: '0' :: Text.Hexadecimal.lowerPair c.toNat)) := by
  have all : ∀ n : Fin 32, ∃ h l,
      encode ('\\' :: 'u' :: '0' :: '0' :: Text.Hexadecimal.lowerPair n.val) =
        [0x5C, 0x75, 0x30, 0x30, h, l] ∧ hexUnit? 0x30 0x30 h l = some n.val := by
    intro n
    refine ⟨UInt8.ofNat (Nat.digitChar (n.val / 16)).toNat,
      UInt8.ofNat (Nat.digitChar (n.val % 16)).toNat, ?_⟩
    revert n
    decide +kernel
  have ⟨h, l, same, digits⟩ := all ⟨c.toNat, low⟩
  rw [same]
  exact .unit low digits

theorem isEscaped_escape : IsEscaped c (encode (Value.escape c)) := by
  unfold Value.escape
  split
  case isTrue h => subst h; exact .short rfl rfl
  case isFalse quote =>
  split
  case isTrue h => subst h; exact .short rfl rfl
  case isFalse backslash =>
  split
  case isTrue h => subst h; exact .short rfl rfl
  split
  case isTrue h => subst h; exact .short rfl rfl
  split
  case isTrue h => subst h; exact .short rfl rfl
  split
  case isTrue h => subst h; exact .short rfl rfl
  split
  case isTrue h => subst h; exact .short rfl rfl
  split
  case isTrue low      => exact isEscaped_unit low
  case isFalse control =>
    have same : encode [c] = String.utf8EncodeChar c := by simp [encode]
    rw [same]
    exact .plain fun _ => isPlain_of_mem_encodeChar control quote backslash

-- Whatever way a character is written in a string, it is read as itself.
theorem readString_char (h : IsEscaped c bytes) : readString place read (bytes ++ rest) =
    readString (place + bytes.length) ((String.utf8EncodeChar c).reverse ++ read) rest := by
  cases h with
  | short escape same =>
    rw [same]
    exact readString_escape escape
  | unit low digits   =>
    refine (readString_unit digits low).trans ?_
    rw [pushCodePoint, Char.ofNat_toNat]
    rfl
  | plain plain       => exact readString_plain plain

theorem skipString_char (h : IsEscaped c bytes) :
    skipString place (bytes ++ rest) = skipString (place + bytes.length) rest := by
  cases h with
  | short escape _ => exact skipString_escape escape
  | unit _ digits  => exact skipString_unit digits
  | plain plain    => exact skipString_plain plain

theorem readString_text :
    readString place read (encode (cs.flatMap Value.escape) ++ 0x22 :: rest) =
      .ok (read.reverse ++ encode cs, place + (encode (cs.flatMap Value.escape)).length + 1) := by
  induction cs generalizing place read with
  | nil          =>
    simp only [List.flatMap_nil, encode, List.nil_append, List.append_nil, List.length_nil]
    rw [readString.eq_def]
    rfl
  | cons c cs hi =>
    rw [List.flatMap_cons, encode_append, List.append_assoc, readString_char isEscaped_escape, hi,
      encode_cons, List.length_append]
    simp [Nat.add_assoc]

theorem skipString_text :
    skipString place (encode (cs.flatMap Value.escape) ++ 0x22 :: rest) =
      .ok (place + (encode (cs.flatMap Value.escape)).length + 1) := by
  induction cs generalizing place with
  | nil          =>
    simp only [List.flatMap_nil, encode, List.nil_append, List.length_nil]
    rw [skipString.eq_def]
    rfl
  | cons c cs hi =>
    rw [List.flatMap_cons, encode_append, List.append_assoc, skipString_char isEscaped_escape, hi,
      List.length_append]
    simp [Nat.add_assoc]

-- The value of a string is what was written.
theorem string_text : string place (encode (s.toList.flatMap Value.escape) ++ 0x22 :: rest) =
    ⟨.ok s, .ok (place + (encode (s.toList.flatMap Value.escape)).length + 1)⟩ := by
  unfold string
  rw [readString_text, skipString_text]
  simp only [List.reverse_nil, List.nil_append, bind, Except.bind, Text.Utf8.decode_encode,
    String.ofList_toList]

end Lexeme

-- What may stand behind a value: nothing, or what goes on with or closes a list or an object.
def Ends (tail : Bytes) : Prop :=
  ∀ b ∈ tail.head?, b = 0x2C ∨ b = 0x5D ∨ b = 0x7D

theorem Ends.not_isDigit {b : UInt8} (ends : Ends (b :: tail)) : isDigit b = false := by
  rcases ends b rfl with rfl | rfl | rfl <;> rfl

theorem Ends.no_digits (ends : Ends tail) :
    tail.takeWhile isDigit = [] ∧ tail.dropWhile isDigit = tail := by
  cases tail with
  | nil           => exact ⟨rfl, rfl⟩
  | cons b others =>
    rw [List.takeWhile_cons, List.dropWhile_cons, ends.not_isDigit]
    exact ⟨rfl, rfl⟩

namespace Numeral

-- The digits of a number, as bytes.
def digits (n : Nat) : Bytes :=
  (Nat.toDigits 10 n).map fun c => UInt8.ofNat c.toNat

theorem encode_toDigits : encode (Nat.toDigits 10 n) = digits n := by
  refine Text.Utf8.encode_ascii fun c hc => ?_
  have digit := Nat.isDigit_of_mem_toDigits (by decide) (by decide) hc
  simp only [Char.isDigit, Bool.and_eq_true, decide_eq_true_eq] at digit
  exact Nat.lt_of_le_of_lt digit.2 (by decide)

theorem isDigit_of_char (h : c.isDigit) :
    isDigit (UInt8.ofNat c.toNat) ∧ digitValue (UInt8.ofNat c.toNat) = c.toNat - '0'.toNat := by
  simp only [Char.isDigit, Bool.and_eq_true, decide_eq_true_eq] at h
  have low : 48 ≤ c.toNat := h.1
  have high : c.toNat ≤ 57 := h.2
  have value : (UInt8.ofNat c.toNat).toNat = c.toNat := by
    rw [UInt8.toNat_ofNat', Nat.mod_eq_of_lt (by omega)]
  simp only [isDigit, digitValue, UInt8.le_iff_toNat_le, value, Bool.and_eq_true,
    decide_eq_true_eq]
  exact ⟨⟨low, high⟩, rfl⟩

theorem isDigit_of_mem {b : UInt8} (h : b ∈ digits n) : isDigit b := by
  have ⟨c, hc, same⟩ := List.mem_map.1 h
  exact same ▸ (isDigit_of_char (Nat.isDigit_of_mem_toDigits (by decide) (by decide) hc)).1

theorem digits_of_lt (h : n < 10) : digits n = [UInt8.ofNat (Nat.digitChar n).toNat] := by
  rw [digits, Nat.toDigits_of_lt_base h]
  rfl

theorem digits_of_le (h : 10 ≤ n) :
    digits n = digits (n / 10) ++ [UInt8.ofNat (Nat.digitChar (n % 10)).toNat] := by
  rw [digits, Nat.toDigits_of_base_le (by decide) h, List.map_append]
  rfl

-- Only zero begins with one.
theorem exists_digits (n : Nat) : ∃ b bs, digits n = b :: bs ∧ (b = 0x30 → n = 0) := by
  induction n using Nat.strongRecOn with
  | ind n hi =>
    by_cases small : n < 10
    case pos =>
      have all : ∀ n : Fin 10, UInt8.ofNat (Nat.digitChar n).toNat = 0x30 → n = 0 := by decide
      refine ⟨_, [], digits_of_lt small, fun zero => ?_⟩
      simpa using congrArg Fin.val (all ⟨n, small⟩ zero)
    case neg =>
      have ⟨b, bs, front, first⟩ := hi (n / 10) (by omega)
      refine ⟨b, _, by rw [digits_of_le (Nat.not_lt.1 small), front, List.cons_append], ?_⟩
      intro zero
      have := first zero
      omega

def value (n : Nat) (bytes : Bytes) : Nat :=
  bytes.foldl (fun n b => n * 10 + digitValue b) n

theorem value_digits : value 0 (digits n) = n := by
  have step (cs : List Char) (decimal : ∀ c ∈ cs, c.isDigit) (m : Nat) :
      value m (cs.map fun c => UInt8.ofNat c.toNat) = Nat.ofDigitChars 10 cs m := by
    induction cs generalizing m with
    | nil          => rfl
    | cons c cs hi =>
      have ⟨digit, others⟩ := List.forall_mem_cons.1 decimal
      rw [Nat.ofDigitChars_cons, ← hi others, ← (isDigit_of_char digit).2, Nat.mul_comm]
      rfl
  rw [digits, step _ fun _ => Nat.isDigit_of_mem_toDigits (by decide) (by decide),
    Nat.ofDigitChars_ten_toDigits]

theorem le_value {m : Nat} : m ≤ value m bytes := by
  induction bytes generalizing m with
  | nil          => exact Nat.le_refl m
  | cons b bs hi => exact Nat.le_trans (by omega) (hi (m := m * 10 + digitValue b))

-- A number that fits its word is taken in with all its digits.
theorem absorb_all {m count : Nat} (h : value m bytes < significandBound) :
    absorb m count bytes = (value m bytes, count + bytes.length, []) := by
  induction bytes generalizing m count with
  | nil          => rfl
  | cons b bs hi =>
    have fits : m * 10 + digitValue b < significandBound := Nat.lt_of_le_of_lt le_value h
    rw [absorb, if_pos fits, hi h, List.length_cons, Nat.add_assoc, Nat.add_comm 1]
    rfl

theorem scanWhole_digits (ends : Ends tail) :
    scanWhole place (digits n ++ tail) = .ok (digits n, place + (digits n).length, tail) := by
  have decimal {b : UInt8} := isDigit_of_mem (n := n) (b := b)
  have ⟨b, bs, same, first⟩ := exists_digits n
  by_cases zero : b = 0x30
  case pos =>
    have single : digits n = [0x30] := by rw [first zero]; rfl
    rw [single]
    cases tail with
    | nil           => rfl
    | cons c others =>
      rw [List.singleton_append, scanWhole.eq_def]
      simp [ends.not_isDigit]
  case neg =>
    rw [same] at decimal ⊢
    have others (d : UInt8) (h : d ∈ bs) := decimal (.tail b h)
    rw [List.cons_append, scanWhole.eq_def]
    dsimp only
    rw [if_neg zero, if_pos (decimal (.head _)), List.takeWhile_append_of_pos others,
      List.dropWhile_append_of_pos others, ends.no_digits.1, ends.no_digits.2]
    simp [Nat.add_assoc, Nat.add_comm 1]

theorem scanFraction_ends (ends : Ends tail) :
    scanFraction place tail = .ok (none, place, tail) := by
  cases tail with
  | nil      => rfl
  | cons b _ => rcases ends b rfl with rfl | rfl | rfl <;> rfl

theorem scanExponent_ends (ends : Ends tail) : scanExponent place tail = .ok (none, place) := by
  cases tail with
  | nil      => rfl
  | cons b _ => rcases ends b rfl with rfl | rfl | rfl <;> rfl

theorem scan_natural (ends : Ends tail) : scan place (digits n ++ tail) =
    .ok (⟨false, digits n, none, none⟩, place + (digits n).length) := by
  have unsigned : (digits n ++ tail).head? ≠ some 0x2D := by
    have ⟨b, bs, same, _⟩ := exists_digits n
    have digit := isDigit_of_mem (n := n) (b := b) (by simp [same])
    rw [same, List.cons_append, List.head?_cons, ne_eq, Option.some.injEq]
    rintro rfl
    cases digit
  unfold scan
  split
  case h_1 front =>
    split at front
    case h_1 signed =>
      rw [signed] at unsigned
      exact absurd rfl unsigned
    case h_2        =>
      cases front
      simp only [bind, Except.bind, scanWhole_digits ends, scanFraction_ends ends,
        scanExponent_ends ends]
      rfl

theorem scan_negative (ends : Ends tail) : scan place (0x2D :: (digits n ++ tail)) =
    .ok (⟨true, digits n, none, none⟩, place + 1 + (digits n).length) := by
  unfold scan
  simp only [bind, Except.bind, scanWhole_digits ends, scanFraction_ends ends,
    scanExponent_ends ends]
  rfl

theorem number_natural (fits : n < 2 ^ 64) :
    Written.number ⟨false, digits n, none, none⟩ = .ok (.natural n) := by
  have small : value 0 (digits n) < significandBound := by
    rw [value_digits]
    exact fits
  unfold Written.number
  rw [absorb_all small, value_digits]
  rfl

theorem number_negative (some : n ≠ 0) (fits : n ≤ 2 ^ 63) :
    Written.number ⟨true, digits n, none, none⟩ = .ok (.negative n) := by
  have small : value 0 (digits n) < significandBound := by
    rw [value_digits]
    exact Nat.lt_of_le_of_lt fits (by decide)
  unfold Written.number
  rw [absorb_all small, value_digits]
  simp [some, fits]

theorem read_natural (place : Nat) (ends : Ends tail) (fits : n < 2 ^ 64) :
    Numeral.read place (digits n ++ tail) =
      (.ok (.natural n), .ok (place + (digits n).length)) := by
  unfold Numeral.read
  rw [scan_natural ends]
  dsimp only
  rw [number_natural fits]

theorem read_negative (place : Nat) (ends : Ends tail) (some : n ≠ 0) (fits : n ≤ 2 ^ 63) :
    Numeral.read place (0x2D :: (digits n ++ tail)) =
      (.ok (.negative n), .ok (place + 1 + (digits n).length)) := by
  unfold Numeral.read
  rw [scan_negative ends]
  dsimp only
  rw [number_negative some fits]

end Numeral

end ArtifactSync.Json

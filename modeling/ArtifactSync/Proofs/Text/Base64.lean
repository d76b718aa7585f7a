import ArtifactSync.Proofs.Fallible
import ArtifactSync.Proofs.Text.Ascii
import ArtifactSync.Text.Base64

namespace ArtifactSync.Text.Base64

open Fallible (bind_ok)
open Utf8 (ofNat_eq)

variable {n n₁ n₂ n₃ n₄ offset : Nat} {read bs group written : Bytes} {a b c : UInt8}

theorem value?_symbol (h : n < 64) : value? (symbol n) = some n ∧ symbol n ≠ pad := by
  have all : ∀ n : Fin 64, value? (symbol n) = some n.val ∧ symbol n ≠ pad := by decide
  exact all ⟨n, h⟩

theorem valueAt_symbol (offset : Nat) (h : n < 64) : valueAt offset (symbol n) = .ok n := by
  unfold valueAt
  rw [(value?_symbol h).1]

-- The last group, whole or filled up with padding.
theorem decodeLast_two (h₁ : n₁ < 64) (h₂ : n₂ < 64) (fits : n₂ % 16 = 0) :
    decodeLast offset [symbol n₁, symbol n₂, pad, pad] = .ok [UInt8.ofNat (n₁ * 4 + n₂ / 16)] := by
  simp [decodeLast, lastValues, valueAt_symbol, value?_symbol, h₁, h₂, fits, bind, Except.bind,
    pure, Except.pure]

theorem decodeLast_three (h₁ : n₁ < 64) (h₂ : n₂ < 64) (h₃ : n₃ < 64) (fits : n₃ % 4 = 0) :
    decodeLast offset [symbol n₁, symbol n₂, symbol n₃, pad] =
      .ok [UInt8.ofNat (n₁ * 4 + n₂ / 16), UInt8.ofNat (n₂ % 16 * 16 + n₃ / 4)] := by
  simp [decodeLast, lastValues, valueAt_symbol, value?_symbol, h₁, h₂, h₃, fits, bind, Except.bind,
    pure, Except.pure]

theorem decodeLast_four (h₁ : n₁ < 64) (h₂ : n₂ < 64) (h₃ : n₃ < 64) (h₄ : n₄ < 64) :
    decodeLast offset [symbol n₁, symbol n₂, symbol n₃, symbol n₄] =
      .ok [UInt8.ofNat (n₁ * 4 + n₂ / 16), UInt8.ofNat (n₂ % 16 * 16 + n₃ / 4),
        UInt8.ofNat (n₃ % 4 * 64 + n₄)] := by
  simp [decodeLast, lastValues, valueAt_symbol, value?_symbol, h₁, h₂, h₃, h₄, bind, Except.bind,
    pure, Except.pure]

theorem decodeFrom_four (h₁ : n₁ < 64) (h₂ : n₂ < 64) (h₃ : n₃ < 64) (h₄ : n₄ < 64)
    (more : group ≠ []) :
    decodeFrom offset read (symbol n₁ :: symbol n₂ :: symbol n₃ :: symbol n₄ :: group) =
      decodeFrom (offset + 4)
        (UInt8.ofNat (n₃ % 4 * 64 + n₄) :: UInt8.ofNat (n₂ % 16 * 16 + n₃ / 4) ::
          UInt8.ofNat (n₁ * 4 + n₂ / 16) :: read) group := by
  cases group with
  | nil      => exact absurd rfl more
  | cons _ _ =>
    rw [decodeFrom]
    simp only [valueAt_symbol, h₁, h₂, h₃, h₄, bind, Except.bind]

theorem decodeFrom_last {x₁ x₂ x₃ x₄ : UInt8} : decodeFrom offset read [x₁, x₂, x₃, x₄] =
    (decodeLast offset [x₁, x₂, x₃, x₄]).map (read.reverse ++ ·) := by
  rw [decodeFrom]
  · cases decodeLast offset [x₁, x₂, x₃, x₄] <;> rfl
  · simp

theorem encode_ne_nil (h : bs ≠ []) : encode bs ≠ [] := by
  match bs with
  | []               => exact absurd rfl h
  | [_]              => exact List.cons_ne_nil _ _
  | [_, _]           => exact List.cons_ne_nil _ _
  | _ :: _ :: _ :: _ => exact List.cons_ne_nil _ _

theorem decodeFrom_encode : decodeFrom offset read (encode bs) = .ok (read.reverse ++ bs) := by
  induction bs using encode.induct generalizing offset read with
  | case1              => rfl
  | case2 a            =>
    have := a.toNat_lt
    have first : UInt8.ofNat (a.toNat / 4 * 4 + a.toNat % 4 * 16 / 16) = a := ofNat_eq (by omega)
    simp (disch := omega) only [encode, decodeFrom_last, decodeLast_two, first]
    rfl
  | case3 a b          =>
    have := a.toNat_lt
    have := b.toNat_lt
    have first : UInt8.ofNat (a.toNat / 4 * 4 + (a.toNat % 4 * 16 + b.toNat / 16) / 16) = a :=
      ofNat_eq (by omega)
    have second : UInt8.ofNat ((a.toNat % 4 * 16 + b.toNat / 16) % 16 * 16 +
      b.toNat % 16 * 4 / 4) = b := ofNat_eq (by omega)
    simp (disch := omega) only [encode, decodeFrom_last, decodeLast_three, first, second]
    rfl
  | case4 a b c rest hi =>
    have := a.toNat_lt
    have := b.toNat_lt
    have := c.toNat_lt
    have first : UInt8.ofNat (a.toNat / 4 * 4 + (a.toNat % 4 * 16 + b.toNat / 16) / 16) = a :=
      ofNat_eq (by omega)
    have second : UInt8.ofNat ((a.toNat % 4 * 16 + b.toNat / 16) % 16 * 16 +
      (b.toNat % 16 * 4 + c.toNat / 64) / 4) = b := ofNat_eq (by omega)
    have third : UInt8.ofNat ((b.toNat % 16 * 4 + c.toNat / 64) % 4 * 64 + c.toNat % 64) = c :=
      ofNat_eq (by omega)
    by_cases last : rest = []
    case pos =>
      simp (disch := omega) only [last, encode, decodeFrom_last, decodeLast_four, first, second,
        third]
      rfl
    case neg =>
      have more := encode_ne_nil last
      rw [encode, decodeFrom_four (by omega) (by omega) (by omega) (by omega) more, hi, first,
        second, third]
      simp

theorem length_encode : (encode bs).length % 4 = 0 := by
  induction bs using encode.induct with
  | case1               => rfl
  | case2               => simp [encode]
  | case3               => simp [encode]
  | case4 _ _ _ rest hi =>
    simp only [encode, List.length_cons]
    omega

theorem decode_encode : decode (encode bs) = .ok bs := by
  have whole : ¬(encode bs).length % 4 = 1 := by
    rw [length_encode]
    decide
  unfold decode
  rw [if_neg whole]
  exact decodeFrom_encode

-- The table is read backwards without loss.
theorem eq_symbol_of_value? (h : value? b = some n) : n < 64 ∧ b = symbol n := by
  have all : ∀ i : Fin 256, ∀ n ∈ value? (UInt8.ofNat i), n < 64 ∧ UInt8.ofNat i = symbol n := by
    decide +kernel
  have there := all ⟨b.toNat, b.toNat_lt⟩ n
  rw [UInt8.ofNat_toNat] at there
  exact there h

theorem eq_symbol_of_valueAt (h : valueAt offset b = .ok n) : n < 64 ∧ b = symbol n := by
  unfold valueAt at h
  split at h
  case h_1 v hv =>
    cases h
    exact eq_symbol_of_value? hv
  case h_2 => cases h

-- Symbols in front and padding behind, and behind padding nothing but padding.
theorem eq_of_lastValues {place pads : Nat} {padded : Option Nat} {values : List Nat}
    (h : lastValues offset place padded group = .ok (values, pads)) :
    (∀ v ∈ values, v < 64) ∧ group = values.map symbol ++ List.replicate pads pad ∧
      (padded.isSome → values = []) := by
  induction group generalizing place padded values pads with
  | nil            =>
    cases h
    exact ⟨nofun, rfl, fun _ => rfl⟩
  | cons b rest hi =>
    rw [lastValues.eq_def] at h
    dsimp only at h
    split at h
    case isTrue here =>
      split at h
      case isTrue  => cases h
      case isFalse =>
        have ⟨found, behind, made⟩ := bind_ok h
        have ⟨_, split, alone⟩ := hi behind
        have alone : found.1 = [] := alone (by cases padded <;> rfl)
        cases made
        rw [alone] at split ⊢
        exact ⟨nofun, by rw [here, split]; rfl, fun _ => rfl⟩
    case isFalse =>
      split at h
      case h_1 => cases h
      case h_2 =>
        have ⟨v, here, h⟩ := bind_ok h
        have ⟨found, behind, made⟩ := bind_ok h
        have ⟨small, split, _⟩ := hi behind
        have ⟨bound, same⟩ := eq_symbol_of_valueAt here
        cases made
        exact ⟨List.forall_mem_cons.2 ⟨bound, small⟩, by rw [same, split]; rfl, nofun⟩

theorem toNat_ofNat (h : n < 256) : (UInt8.ofNat n).toNat = n := by
  rw [UInt8.toNat_ofNat', Nat.mod_eq_of_lt h]

theorem encode_one (h₁ : n₁ < 64) (h₂ : n₂ < 64) (fits : n₂ % 16 = 0) :
    encode [UInt8.ofNat (n₁ * 4 + n₂ / 16)] = [symbol n₁, symbol n₂, pad, pad] := by
  have first : (n₁ * 4 + n₂ / 16) / 4 = n₁ := by omega
  have second : (n₁ * 4 + n₂ / 16) % 4 * 16 = n₂ := by omega
  rw [encode, toNat_ofNat (by omega), first, second]

theorem encode_two (h₁ : n₁ < 64) (h₂ : n₂ < 64) (h₃ : n₃ < 64) (fits : n₃ % 4 = 0) :
    encode [UInt8.ofNat (n₁ * 4 + n₂ / 16), UInt8.ofNat (n₂ % 16 * 16 + n₃ / 4)] =
      [symbol n₁, symbol n₂, symbol n₃, pad] := by
  have first : (n₁ * 4 + n₂ / 16) / 4 = n₁ := by omega
  have second : (n₁ * 4 + n₂ / 16) % 4 * 16 + (n₂ % 16 * 16 + n₃ / 4) / 16 = n₂ := by omega
  have third : (n₂ % 16 * 16 + n₃ / 4) % 16 * 4 = n₃ := by omega
  rw [encode, toNat_ofNat (by omega), toNat_ofNat (by omega), first, second, third]

theorem encode_three (h₁ : n₁ < 64) (h₂ : n₂ < 64) (h₃ : n₃ < 64) (h₄ : n₄ < 64) :
    encode (UInt8.ofNat (n₁ * 4 + n₂ / 16) :: UInt8.ofNat (n₂ % 16 * 16 + n₃ / 4) ::
        UInt8.ofNat (n₃ % 4 * 64 + n₄) :: bs) =
      symbol n₁ :: symbol n₂ :: symbol n₃ :: symbol n₄ :: encode bs := by
  have first : (n₁ * 4 + n₂ / 16) / 4 = n₁ := by omega
  have second : (n₁ * 4 + n₂ / 16) % 4 * 16 + (n₂ % 16 * 16 + n₃ / 4) / 16 = n₂ := by omega
  have third : (n₂ % 16 * 16 + n₃ / 4) % 16 * 4 + (n₃ % 4 * 64 + n₄) / 64 = n₃ := by omega
  have fourth : (n₃ % 4 * 64 + n₄) % 64 = n₄ := by omega
  rw [encode, toNat_ofNat (by omega), toNat_ofNat (by omega), toNat_ofNat (by omega), first, second,
    third, fourth]

-- The last group is one that the last bytes are written in.
theorem eq_encode_of_decodeLast (short : group.length ≤ 4)
    (h : decodeLast offset group = .ok bs) : group = encode bs := by
  have ⟨found, read, h⟩ := bind_ok h
  have ⟨small, split, _⟩ := eq_of_lastValues read
  have ⟨values, pads⟩ := found
  have length := congrArg List.length split
  simp only [List.length_append, List.length_map, List.length_replicate] at length
  dsimp only at *
  split at h
  case isTrue => cases h
  case isFalse whole =>
    rcases values with _ | ⟨v, _ | ⟨w, _ | ⟨x, _ | ⟨y, more⟩⟩⟩⟩
    case nil =>
      dsimp only at h
      split at h
      case isTrue none =>
        cases h
        exact List.isEmpty_iff.1 none
      case isFalse     => cases h
    case cons.nil => cases h
    case cons.cons.nil =>
      have ⟨hv, small⟩ := List.forall_mem_cons.1 small
      have ⟨hw, _⟩ := List.forall_mem_cons.1 small
      have two : pads = 2 := by simp only [List.length_cons, List.length_nil] at *; omega
      dsimp only at h
      split at h
      case isTrue       => cases h
      case isFalse fits =>
        cases h
        rw [encode_one hv hw (Decidable.not_not.1 fits), split, two]
        rfl
    case cons.cons.cons.nil =>
      have ⟨hv, small⟩ := List.forall_mem_cons.1 small
      have ⟨hw, small⟩ := List.forall_mem_cons.1 small
      have ⟨hx, _⟩ := List.forall_mem_cons.1 small
      have one : pads = 1 := by simp only [List.length_cons, List.length_nil] at *; omega
      dsimp only at h
      split at h
      case isTrue       => cases h
      case isFalse fits =>
        cases h
        rw [encode_two hv hw hx (Decidable.not_not.1 fits), split, one]
        rfl
    case cons.cons.cons.cons =>
      have ⟨hv, small⟩ := List.forall_mem_cons.1 small
      have ⟨hw, small⟩ := List.forall_mem_cons.1 small
      have ⟨hx, small⟩ := List.forall_mem_cons.1 small
      have ⟨hy, _⟩ := List.forall_mem_cons.1 small
      have none : more.length = 0 ∧ pads = 0 := by
        simp only [List.length_cons] at *
        omega
      cases h
      rw [encode_three hv hw hx hy, split, List.length_eq_zero_iff.1 none.1, none.2]
      rfl

theorem eq_encode_of_decodeFrom (h : decodeFrom offset read written = .ok bs) :
    ∃ more, bs = read.reverse ++ more ∧ written = encode more := by
  fun_induction decodeFrom offset read written with
  | case1 offset read a b c d e rest hi =>
    have ⟨n₁, h₁, h⟩ := bind_ok h
    have ⟨n₂, h₂, h⟩ := bind_ok h
    have ⟨n₃, h₃, h⟩ := bind_ok h
    have ⟨n₄, h₄, h⟩ := bind_ok h
    have ⟨l₁, s₁⟩ := eq_symbol_of_valueAt h₁
    have ⟨l₂, s₂⟩ := eq_symbol_of_valueAt h₂
    have ⟨l₃, s₃⟩ := eq_symbol_of_valueAt h₃
    have ⟨l₄, s₄⟩ := eq_symbol_of_valueAt h₄
    have ⟨more, whole, split⟩ := hi n₁ n₂ n₃ n₄ h
    simp only [List.reverse_cons, List.append_assoc, List.cons_append, List.nil_append] at whole
    refine ⟨_, whole, ?_⟩
    rw [encode_three l₁ l₂ l₃ l₄, ← split, s₁, s₂, s₃, s₄]
  | case2 offset read group other       =>
    have ⟨last, h, whole⟩ := bind_ok h
    have short : group.length ≤ 4 := by
      rcases group with _ | ⟨a, _ | ⟨b, _ | ⟨c, _ | ⟨d, _ | ⟨e, rest⟩⟩⟩⟩⟩
      case cons.cons.cons.cons.cons => exact (other a b c d e rest rfl).elim
      all_goals simp
    exact ⟨last, (Except.ok.inj whole).symm, eq_encode_of_decodeLast short h⟩

-- Nothing else is read.
theorem decode_eq_ok_iff : decode written = .ok bs ↔ written = encode bs := by
  constructor
  case mp  =>
    intro h
    have whole : decodeFrom 0 [] written = .ok bs := by
      unfold decode at h
      split at h
      case isFalse => exact h
      case isTrue  =>
        dsimp only at h
        split at h
        case isTrue  => cases h
        case isFalse => exact h
    have ⟨more, same, split⟩ := eq_encode_of_decodeFrom whole
    rw [split, same]
    rfl
  case mpr =>
    intro h
    rw [h, decode_encode]

theorem symbol_printable (n : Nat) : 0x20 < (symbol n).toNat ∧ (symbol n).toNat < 0x7F := by
  unfold symbol
  repeat' split
  case isFalse.isFalse.isFalse.isTrue  => decide
  case isFalse.isFalse.isFalse.isFalse => decide
  all_goals
    rw [UInt8.toNat_ofNat', Nat.mod_eq_of_lt (by omega)]
    omega

theorem encode_printable : ∀ b ∈ encode bs, 0x20 < b.toNat ∧ b.toNat < 0x7F := by
  have padding : 0x20 < pad.toNat ∧ pad.toNat < 0x7F := by decide
  induction bs using encode.induct with
  | case1               => exact fun _ hb => nomatch hb
  | case2               => simp [encode, symbol_printable, padding]
  | case3               => simp [encode, symbol_printable, padding]
  | case4 _ _ _ rest hi => simpa [encode, symbol_printable] using hi

theorem toNat_of_mem_encode (h : a ∈ encode bs) : (Char.ofNat a.toNat).toNat = a.toNat := by
  have all : ∀ n : Fin 128, (Char.ofNat n.val).toNat = n.val := by decide +kernel
  exact all ⟨a.toNat, Nat.lt_trans (encode_printable a h).2 (by decide)⟩

-- Base 64 is text of plain signs, without a blank.
theorem isPrintable_text : IsPrintable (text bs).toList := by
  intro c hc
  rw [text, String.toList_ofList] at hc
  have ⟨a, ha, same⟩ := List.mem_map.1 hc
  rw [← same, toNat_of_mem_encode ha]
  exact encode_printable a ha

theorem bytesOf_text : bytesOf (text bs) = encode bs := by
  rw [bytesOf, Utf8.encode_ascii isPrintable_text.isAscii, text, String.toList_ofList, List.map_map]
  refine (List.map_congr_left fun a ha => ?_).trans (List.map_id _)
  exact ofNat_eq (toNat_of_mem_encode ha)

theorem text_ne_empty (h : bs ≠ []) : text bs ≠ "" := by
  intro none
  have empty : encode bs = [] := by rw [← bytesOf_text, none]; rfl
  exact encode_ne_nil h empty

theorem decode_text : decode (bytesOf (text bs)) = .ok bs := by
  rw [bytesOf_text, decode_encode]

end ArtifactSync.Text.Base64

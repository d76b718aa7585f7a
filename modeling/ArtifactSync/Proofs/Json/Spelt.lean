import ArtifactSync.Proofs.Json.Written

namespace ArtifactSync.Json

open Text.Utf8 (encode encode_append encode_cons)

variable {place depth : Nat} {tail bytes bytes' : Bytes} {v : Value} {k : String} {vs : List Value}
  {ms : List (String × Value)} {ls ls' : List Lexeme}

mutual

inductive Spelt : Value → List Lexeme → Prop
  | null {a b : Nat} : Spelt .null [⟨.word .null none, a, b⟩]
  | boolean {t : Bool} {a b : Nat} : Spelt (.boolean t) [⟨.word (.boolean t) none, a, b⟩]
  | number {n : Number} {skipped a b : Nat} :
    Spelt (.number n) [⟨.number ⟨.ok n, .ok skipped⟩, a, b⟩]
  | string {s : String} {skipped a b : Nat} :
    Spelt (.string s) [⟨.string ⟨.ok s, .ok skipped⟩, a, b⟩]
  | list {vs : List Value} {ls : List Lexeme} {a b c d : Nat} : SpeltItems false vs ls →
    Spelt (.list vs) (⟨.openBracket, a, b⟩ :: (ls ++ [⟨.closeBracket, c, d⟩]))
  | object {ms : List (String × Value)} {ls : List Lexeme} {a b c d : Nat} :
    SpeltMembers false ms ls →
    Spelt (.object ms) (⟨.openBrace, a, b⟩ :: (ls ++ [⟨.closeBrace, c, d⟩]))

-- Elements, with a comma in front of the first one or not.
inductive SpeltItems : Bool → List Value → List Lexeme → Prop
  | nil {comma : Bool} : SpeltItems comma [] []
  | first {v : Value} {vs : List Value} {ls ls' : List Lexeme} :
    Spelt v ls → SpeltItems true vs ls' → SpeltItems false (v :: vs) (ls ++ ls')
  | more {v : Value} {vs : List Value} {ls ls' : List Lexeme} {a b : Nat} :
    Spelt v ls → SpeltItems true vs ls' →
    SpeltItems true (v :: vs) (⟨.comma, a, b⟩ :: (ls ++ ls'))

inductive SpeltMembers : Bool → List (String × Value) → List Lexeme → Prop
  | nil {comma : Bool} : SpeltMembers comma [] []
  | first {k : String} {v : Value} {ms : List (String × Value)} {ls ls' : List Lexeme}
    {skipped a b c d : Nat} : Spelt v ls → SpeltMembers true ms ls' →
    SpeltMembers false ((k, v) :: ms)
      (⟨.string ⟨.ok k, .ok skipped⟩, a, b⟩ :: ⟨.colon, c, d⟩ :: (ls ++ ls'))
  | more {k : String} {v : Value} {ms : List (String × Value)} {ls ls' : List Lexeme}
    {skipped a b c d e f : Nat} : Spelt v ls → SpeltMembers true ms ls' →
    SpeltMembers true ((k, v) :: ms)
      (⟨.comma, e, f⟩ :: ⟨.string ⟨.ok k, .ok skipped⟩, a, b⟩ :: ⟨.colon, c, d⟩ :: (ls ++ ls'))

end

-- A number whose text is read as itself, whatever ends it.
structure Number.IsExact (n : Number) : Prop where
  starts : ∃ b bs, bytesOf (Value.writeNumber n) = b :: bs ∧ (b = 0x2D ∨ isDigit b)
  read   : ∀ (place : Nat) (tail : Bytes), Ends tail →
    Numeral.read place (bytesOf (Value.writeNumber n) ++ tail) =
      (.ok n, .ok (place + (bytesOf (Value.writeNumber n)).length))

-- Values of exact numbers only, with at most `depth` brackets around each part.
inductive Value.IsExact : Nat → Value → Prop
  | null {depth : Nat} : IsExact depth .null
  | boolean {depth : Nat} {b : Bool} : IsExact depth (.boolean b)
  | number {depth : Nat} {n : Number} : n.IsExact → IsExact depth (.number n)
  | string {depth : Nat} {s : String} : IsExact depth (.string s)
  | list {depth : Nat} {vs : List Value} :
    (∀ v ∈ vs, IsExact depth v) → IsExact (depth + 1) (.list vs)
  | object {depth : Nat} {ms : List (String × Value)} :
    (∀ m ∈ ms, IsExact depth m.2) → IsExact (depth + 1) (.object ms)

namespace Lexeme

theorem cut_covered : cut place bytes.length (bytes ++ tail) =
    cut (place + bytes.length) 0 tail := by
  induction bytes generalizing place with
  | nil          => rfl
  | cons b bs hi =>
    rw [List.length_cons, List.cons_append, cut, hi, Nat.add_assoc, Nat.add_comm 1]

theorem cut_cons {b : UInt8} (visible : isSpace b = false) : cut place 0 (b :: tail) =
    first place b tail ::
      cut (place + 1) ((first place b tail).stop - (place + 1)) tail := by
  rw [cut, visible]
  rfl

-- A lexeme that ends where its bytes do.
theorem cut_lexeme {b : UInt8} {l : Lexeme} (visible : isSpace b = false)
    (same : first place b (bytes ++ tail) = l) (stop : l.stop = place + 1 + bytes.length) :
    cut place 0 (b :: (bytes ++ tail)) = l :: cut (place + (b :: bytes).length) 0 tail := by
  rw [cut_cons visible, same, stop, Nat.add_sub_cancel_left, cut_covered, List.length_cons,
    Nat.add_assoc, Nat.add_comm 1]

end Lexeme

open Lexeme

theorem bytesOf_append {s t : String} : bytesOf (s ++ t) = bytesOf s ++ bytesOf t := by
  rw [bytesOf, String.toList_append, encode_append]
  rfl

theorem bytesOf_writeString : bytesOf (Value.writeString k) =
    0x22 :: (encode (k.toList.flatMap Value.escape) ++ [0x22]) := by
  rw [bytesOf, Value.writeString, String.toList_ofList, encode_cons, encode_append]
  rfl

theorem bytesOf_toString {n : Nat} : bytesOf (toString n) = Numeral.digits n := by
  rw [bytesOf, Nat.toString_eq_ofList_toDigits, String.toList_ofList, Numeral.encode_toDigits]

theorem bytesOf_negative {n : Nat} :
    bytesOf (Value.writeNumber (.negative n)) = 0x2D :: Numeral.digits n := by
  rw [Value.writeNumber, bytesOf_append, bytesOf_toString]
  rfl

theorem first_quote {rest : Bytes} : first place 0x22 rest =
    ⟨.string (string (place + 1) rest), place,
      (string (place + 1) rest).skipped.toOption.getD (place + 1)⟩ := rfl

-- A text is cut into these lexemes where this stands behind it.
def CutsInto (place : Nat) (text tail : Bytes) (ls : List Lexeme) : Prop :=
  cut place 0 (text ++ tail) = ls ++ cut (place + text.length) 0 tail

theorem CutsInto.append (here : CutsInto place bytes (bytes' ++ tail) ls)
    (behind : CutsInto (place + bytes.length) bytes' tail ls') :
    CutsInto place (bytes ++ bytes') tail (ls ++ ls') := by
  unfold CutsInto at *
  rw [List.append_assoc, here, behind, List.append_assoc, List.length_append, Nat.add_assoc]

theorem cutsInto_mark {b : UInt8} {t : Token} (place : Nat) (visible : isSpace b = false)
    (mark : ∀ rest, first place b rest = ⟨t, place, place + 1⟩) :
    CutsInto place [b] tail [⟨t, place, place + 1⟩] :=
  cut_lexeme visible (mark _) rfl

theorem cutsInto_string (place : Nat) (k : String) (tail : Bytes) : ∃ skipped a b,
    CutsInto place (bytesOf (Value.writeString k)) tail [⟨.string ⟨.ok k, .ok skipped⟩, a, b⟩] := by
  let inner := encode (k.toList.flatMap Value.escape)
  have read : first place 0x22 (inner ++ [0x22] ++ tail) =
      ⟨.string ⟨.ok k, .ok (place + 1 + inner.length + 1)⟩, place,
        place + 1 + inner.length + 1⟩ := by
    rw [first_quote, List.append_assoc, List.singleton_append, string_text]
    rfl
  rw [bytesOf_writeString]
  exact ⟨_, _, _, cut_lexeme rfl read (by simp [inner, Nat.add_assoc])⟩

theorem isSpace_of_isDigit {b : UInt8} (h : isDigit b) : isSpace b = false := by
  rw [Bool.eq_false_iff]
  intro space
  simp only [isSpace, Bool.or_eq_true, decide_eq_true_eq] at space
  rcases space with ((rfl | rfl) | rfl) | rfl <;> cases h

theorem first_number {b : UInt8} {rest : Bytes} {n : Number} {stop : Nat}
    (starts : b = 0x2D ∨ isDigit b) (read : Numeral.read place (b :: rest) = (.ok n, .ok stop)) :
    first place b rest = ⟨.number ⟨.ok n, .ok stop⟩, place, stop⟩ := by
  have other {c : UInt8} (minus : c ≠ 0x2D) (digit : isDigit c = false) : b ≠ c := by
    rintro rfl
    cases starts with
    | inl same    => exact minus same
    | inr decimal => exact absurd decimal (Bool.eq_false_iff.1 digit)
  unfold first
  simp only [other (c := 0x7B) (by decide) rfl, other (c := 0x7D) (by decide) rfl,
    other (c := 0x5B) (by decide) rfl, other (c := 0x5D) (by decide) rfl,
    other (c := 0x2C) (by decide) rfl, other (c := 0x3A) (by decide) rfl,
    other (c := 0x22) (by decide) rfl, if_false, if_pos starts, read]
  rfl

theorem cutsInto_number {n : Number} (place : Nat) (exact : n.IsExact) (ends : Ends tail) :
    ∃ skipped a b, CutsInto place (bytesOf (Value.writeNumber n)) tail
      [⟨.number ⟨.ok n, .ok skipped⟩, a, b⟩] := by
  have ⟨b, bs, same, starts⟩ := exact.starts
  have read := exact.read place tail ends
  have visible : isSpace b = false :=
    starts.elim (fun minus => by rw [minus]; rfl) isSpace_of_isDigit
  rw [same] at read ⊢
  refine ⟨_, _, _, cut_lexeme visible (first_number starts read) ?_⟩
  rw [List.length_cons, Nat.add_assoc, Nat.add_comm 1]

-- Whole numbers that fit their words are exact.
theorem Number.isExact_natural {n : Nat} (fits : n < 2 ^ 64) : (Number.natural n).IsExact where
  starts := by
    have ⟨b, bs, same, _⟩ := Numeral.exists_digits n
    have digit : isDigit b := Numeral.isDigit_of_mem (by rw [same]; exact .head bs)
    rw [Value.writeNumber, bytesOf_toString]
    exact ⟨b, bs, same, .inr digit⟩
  read place tail ends := by
    rw [Value.writeNumber, bytesOf_toString]
    exact Numeral.read_natural place ends fits

theorem Number.isExact_negative {n : Nat} (some : n ≠ 0) (fits : n ≤ 2 ^ 63) :
    (Number.negative n).IsExact where
  starts := ⟨0x2D, Numeral.digits n, bytesOf_negative, .inl rfl⟩
  read place tail ends := by
    rw [bytesOf_negative, List.cons_append, Numeral.read_negative place ends some fits,
      List.length_cons, Nat.add_assoc, Nat.add_comm 1]

theorem bytesOf_null : bytesOf (Value.write .null) = 0x6E :: [0x75, 0x6C, 0x6C] := rfl

theorem bytesOf_true : bytesOf (Value.write (.boolean true)) = 0x74 :: [0x72, 0x75, 0x65] := rfl

theorem bytesOf_false :
    bytesOf (Value.write (.boolean false)) = 0x66 :: [0x61, 0x6C, 0x73, 0x65] := rfl

theorem cutsInto_null (place : Nat) (tail : Bytes) : ∃ a b,
    CutsInto place (bytesOf (Value.write .null)) tail [⟨.word .null none, a, b⟩] := by
  rw [bytesOf_null]
  exact ⟨_, _, cut_lexeme rfl rfl rfl⟩

theorem cutsInto_boolean (place : Nat) (t : Bool) (tail : Bytes) : ∃ a b,
    CutsInto place (bytesOf (Value.write (.boolean t))) tail [⟨.word (.boolean t) none, a, b⟩] := by
  cases t with
  | true  =>
    rw [bytesOf_true]
    exact ⟨_, _, cut_lexeme rfl rfl rfl⟩
  | false =>
    rw [bytesOf_false]
    exact ⟨_, _, cut_lexeme rfl rfl rfl⟩

-- Texts one after the other, with commas between them, or with one in front of the first as well.
def joined : Bool → List String → Bytes
  | _, []          => []
  | false, t :: ts => bytesOf t ++ joined true ts
  | true, t :: ts  => [0x2C] ++ (bytesOf t ++ joined true ts)

theorem bytesOf_intercalate {ts : List String} :
    bytesOf (",".intercalate ts) = joined false ts := by
  induction ts with
  | nil          => rfl
  | cons t ts hi =>
    cases ts with
    | nil       => rw [String.intercalate_singleton, joined, joined, List.append_nil]
    | cons u ts =>
      rw [String.intercalate_cons_cons, bytesOf_append, bytesOf_append, hi, joined, joined, joined,
        List.append_assoc]
      rfl

theorem writeItems_eq : Value.writeItems vs = vs.map Value.write := by
  induction vs with
  | nil          => rfl
  | cons v vs hi => rw [Value.writeItems, hi, List.map_cons]

-- The text of one member.
def memberText (m : String × Value) : String :=
  Value.writeString m.1 ++ ":" ++ m.2.write

theorem bytesOf_memberText {m : String × Value} : bytesOf (memberText m) =
    bytesOf (Value.writeString m.1) ++ ([0x3A] ++ bytesOf m.2.write) := by
  rw [memberText, bytesOf_append, bytesOf_append, List.append_assoc]
  rfl

theorem writeMembers_eq : Value.writeMembers ms = ms.map memberText := by
  induction ms with
  | nil          => rfl
  | cons m ms hi =>
    rw [Value.writeMembers, hi, List.map_cons]
    rfl

theorem bytesOf_list : bytesOf (Value.write (.list vs)) =
    [0x5B] ++ (joined false (vs.map Value.write) ++ [0x5D]) := by
  rw [Value.write, writeItems_eq, bytesOf_append, bytesOf_append, bytesOf_intercalate]
  rfl

theorem bytesOf_object : bytesOf (Value.write (.object ms)) =
    [0x7B] ++ (joined false (ms.map memberText) ++ [0x7D]) := by
  rw [Value.write, writeMembers_eq, bytesOf_append, bytesOf_append, bytesOf_intercalate]
  rfl

-- A value is written in lexemes that spell it.
def Value.IsCut (v : Value) : Prop :=
  ∀ (place : Nat) (tail : Bytes), Ends tail → ∃ ls, Spelt v ls ∧
    CutsInto place (bytesOf v.write) tail ls

theorem ends_joined (ts : List String) (ends : Ends tail) : Ends (joined true ts ++ tail) := by
  cases ts with
  | nil      => exact ends
  | cons _ _ => exact fun b hb => by cases hb; exact .inl rfl

theorem cutsInto_items (place : Nat) (comma : Bool) (each : ∀ v ∈ vs, v.IsCut)
    (ends : Ends tail) : ∃ ls, SpeltItems comma vs ls ∧
      CutsInto place (joined comma (vs.map Value.write)) tail ls := by
  induction vs generalizing place comma with
  | nil          => cases comma <;> exact ⟨[], .nil, rfl⟩
  | cons v vs hi =>
    have ⟨here, there⟩ := List.forall_mem_cons.1 each
    have behind := ends_joined (vs.map Value.write) ends
    cases comma with
    | false =>
      have ⟨ls, spelt, cuts⟩ := here place _ behind
      have ⟨ls', others, rest⟩ := hi (place + (bytesOf v.write).length) true there
      exact ⟨_, .first spelt others, cuts.append rest⟩
    | true  =>
      have ⟨ls, spelt, cuts⟩ := here (place + 1) _ behind
      have ⟨ls', others, rest⟩ := hi (place + 1 + (bytesOf v.write).length) true there
      exact ⟨_, .more spelt others,
        (cutsInto_mark place rfl fun _ => rfl).append (cuts.append rest)⟩

theorem cutsInto_member {m : String × Value} (place : Nat) (value : m.2.IsCut)
    (ends : Ends tail) : ∃ skipped a b c d ls, Spelt m.2 ls ∧
      CutsInto place (bytesOf (memberText m)) tail
        (⟨.string ⟨.ok m.1, .ok skipped⟩, a, b⟩ :: ⟨.colon, c, d⟩ :: ls) := by
  let behind := place + (bytesOf (Value.writeString m.1)).length
  have ⟨ls, spelt, cuts⟩ := value (behind + 1) tail ends
  have ⟨skipped, a, b, key⟩ := cutsInto_string place m.1 ([0x3A] ++ bytesOf m.2.write ++ tail)
  refine ⟨skipped, a, b, behind, behind + 1, ls, spelt, ?_⟩
  rw [bytesOf_memberText]
  exact key.append ((cutsInto_mark behind rfl fun _ => rfl).append cuts)

theorem cutsInto_members (place : Nat) (comma : Bool) (each : ∀ m ∈ ms, m.2.IsCut)
    (ends : Ends tail) : ∃ ls, SpeltMembers comma ms ls ∧
      CutsInto place (joined comma (ms.map memberText)) tail ls := by
  induction ms generalizing place comma with
  | nil          => cases comma <;> exact ⟨[], .nil, rfl⟩
  | cons m ms hi =>
    have ⟨here, there⟩ := List.forall_mem_cons.1 each
    have behind := ends_joined (ms.map memberText) ends
    cases comma with
    | false =>
      have ⟨_, _, _, _, _, ls, spelt, cuts⟩ := cutsInto_member place here behind
      have ⟨ls', others, rest⟩ := hi (place + (bytesOf (memberText m)).length) true there
      exact ⟨_, .first spelt others, cuts.append rest⟩
    | true  =>
      have ⟨_, _, _, _, _, ls, spelt, cuts⟩ := cutsInto_member (place + 1) here behind
      have ⟨ls', others, rest⟩ := hi (place + 1 + (bytesOf (memberText m)).length) true there
      exact ⟨_, .more spelt others,
        (cutsInto_mark place rfl fun _ => rfl).append (cuts.append rest)⟩

theorem isCut_list (each : ∀ v ∈ vs, v.IsCut) : (Value.list vs).IsCut := by
  intro place tail ends
  have closes : Ends ([0x5D] ++ tail) := fun b hb => by cases hb; exact .inr (.inl rfl)
  have ⟨ls, items, cuts⟩ := cutsInto_items (place + 1) false each closes
  let behind := place + 1 + (joined false (vs.map Value.write)).length
  have opened (tail : Bytes) : CutsInto place [0x5B] tail [⟨.openBracket, place, place + 1⟩] :=
    cutsInto_mark place rfl fun _ => rfl
  have closed : CutsInto behind [0x5D] tail [⟨.closeBracket, behind, behind + 1⟩] :=
    cutsInto_mark behind rfl fun _ => rfl
  have cut := (opened _).append (cuts.append closed)
  rw [← bytesOf_list] at cut
  exact ⟨_, .list items, cut⟩

theorem isCut_object (each : ∀ m ∈ ms, m.2.IsCut) : (Value.object ms).IsCut := by
  intro place tail ends
  have closes : Ends ([0x7D] ++ tail) := fun b hb => by cases hb; exact .inr (.inr rfl)
  have ⟨ls, members, cuts⟩ := cutsInto_members (place + 1) false each closes
  let behind := place + 1 + (joined false (ms.map memberText)).length
  have opened (tail : Bytes) : CutsInto place [0x7B] tail [⟨.openBrace, place, place + 1⟩] :=
    cutsInto_mark place rfl fun _ => rfl
  have closed : CutsInto behind [0x7D] tail [⟨.closeBrace, behind, behind + 1⟩] :=
    cutsInto_mark behind rfl fun _ => rfl
  have cut := (opened _).append (cuts.append closed)
  rw [← bytesOf_object] at cut
  exact ⟨_, .object members, cut⟩

-- Whatever stands around it, a value of exact numbers is written in lexemes that spell it.
theorem isCut_of_isExact (exact : v.IsExact depth) : v.IsCut := by
  induction exact with
  | null          =>
    intro place tail _
    have ⟨_, _, cuts⟩ := cutsInto_null place tail
    exact ⟨_, .null, cuts⟩
  | @boolean _ t  =>
    intro place tail _
    have ⟨_, _, cuts⟩ := cutsInto_boolean place t tail
    exact ⟨_, .boolean, cuts⟩
  | number exact  =>
    intro place tail ends
    have ⟨_, _, _, cuts⟩ := cutsInto_number place exact ends
    exact ⟨_, .number, by rw [Value.write]; exact cuts⟩
  | @string _ s   =>
    intro place tail _
    have ⟨_, _, _, cuts⟩ := cutsInto_string place s tail
    exact ⟨_, .string, by rw [Value.write]; exact cuts⟩
  | list _ each   => exact isCut_list each
  | object _ each => exact isCut_object each

theorem spelt_lexemes (exact : v.IsExact depth) : Spelt v (lexemes (bytesOf v.write)) := by
  have ⟨ls, spelt, cuts⟩ := isCut_of_isExact exact 0 [] fun _ hb => nomatch hb
  rw [CutsInto, List.append_nil, cut, List.append_nil] at cuts
  rw [lexemes, cuts]
  exact spelt

end ArtifactSync.Json

import ArtifactSync.Kubernetes.Time
import ArtifactSync.Proofs.Text.Decimal

namespace ArtifactSync.Kubernetes.Time

variable {n c q t u : Nat}

section Calendar

-- A day of an era of 400 years: so many centuries, four years, years and days behind its start in
-- March. The last of the centuries, and the last of the years, is longer by the leap day.
structure IsDayOf (n c q t u : Nat) : Prop where
  day  : n = 36524 * c + 1461 * q + 365 * t + u
  era  : c ≤ 3
  four : q ≤ 24
  year : t ≤ 3
  leap : u < 365 ∨ u = 365 ∧ t = 3 ∧ (q < 24 ∨ c = 3)

theorem exists_isDayOf (h : n < 146097) : ∃ c q t u, IsDayOf n c q t u := by
  obtain ⟨c, r, hc, hr, rfl⟩ : ∃ c r, c ≤ 3 ∧ (r < 36524 ∨ c = 3 ∧ r = 36524) ∧ n = 36524 * c + r :=
    ⟨min (n / 36524) 3, n - 36524 * min (n / 36524) 3, by omega, by omega, by omega⟩
  obtain ⟨q, s, hq, hs, rfl⟩ : ∃ q s, q ≤ 24 ∧ s ≤ 1460 ∧ r = 1461 * q + s :=
    ⟨r / 1461, r % 1461, by omega, by omega, by omega⟩
  obtain ⟨t, u, ht, hu, rfl⟩ : ∃ t u, t ≤ 3 ∧ (u < 365 ∨ t = 3 ∧ u = 365) ∧ s = 365 * t + u :=
    ⟨min (s / 365) 3, s - 365 * min (s / 365) 3, by omega, by omega, by omega⟩
  exact ⟨c, q, t, u, by omega, hc, hq, ht, by omega⟩

variable (d : IsDayOf n c q t u)

include d in
theorem IsDayOf.daysBefore_eq : 365 * (100 * c + 4 * q + t) + (100 * c + 4 * q + t) / 4 -
    (100 * c + 4 * q + t) / 100 = 36524 * c + 1461 * q + 365 * t := by
  have ⟨_, _, four, year, _⟩ := d
  have fours : (100 * c + 4 * q + t) / 4 = 25 * c + q := by omega
  have centuries : (100 * c + 4 * q + t) / 100 = c := by omega
  omega

include d in
theorem IsDayOf.yearOfEra_eq :
    (n - n / 1460 + n / 36524 - n / 146096) / 365 = 100 * c + 4 * q + t := by
  have ⟨day, era, four, year, leap⟩ := d
  have short : 1461 * q + 365 * t + u < 36524 ∨ n = 146096 := by omega
  have centuries : n / 36524 = c + n / 146096 := by
    rcases short with short | last
    · have none : n / 146096 = 0 := by omega
      omega
    · omega
  have fours : n / 1460 = 25 * c + q + (24 * c + q + 365 * t + u) / 1460 := by omega
  have once : (24 * c + q + 365 * t + u) / 1460 = 0 ∨ (24 * c + q + 365 * t + u) / 1460 = 1 := by
    omega
  rcases once with none | one <;> omega

include d in
theorem IsDayOf.daysBefore_year {y e : Int} (hy : y = (100 * c + 4 * q + t : Nat) + e * 400) :
    365 * y + y / 4 - y / 100 + y / 400 = 146097 * e + (36524 * c + 1461 * q + 365 * t : Nat) := by
  have ⟨_, era, four, year, _⟩ := d
  have fours : y / 4 = 25 * c + q + 100 * e := by omega
  have centuries : y / 100 = c + 4 * e := by omega
  have eras : y / 400 = e := by omega
  omega

include d in
theorem IsDayOf.isLeapYear {y e : Int} (hy : y = (100 * c + 4 * q + t : Nat) + e * 400)
    (last : u = 365) : isLeapYear (y + 1) = true := by
  have ⟨_, era, four, year, leap⟩ := d
  have fourth : (y + 1) % 4 = 0 := by omega
  have kept : (y + 1) % 100 ≠ 0 ∨ (y + 1) % 400 = 0 := by omega
  simp only [Time.isLeapYear, Bool.and_eq_true, Bool.or_eq_true, decide_eq_true_eq]
  exact ⟨fourth, kept⟩

structure IsDate (y : Int) (m d : Nat) : Prop where
  month  : 1 ≤ m
  months : m ≤ 12
  date   : 1 ≤ d
  dates  : d ≤ daysInMonth y m

theorem daysInMonth_le {y : Int} {m : Nat} : daysInMonth y m ≤ 31 := by
  unfold daysInMonth
  split
  · split <;> decide
  · split <;> decide

-- March to December, which are as long in every year.
theorem isDate_early {y : Int} (early : (5 * u + 2) / 153 < 10) :
    IsDate y ((5 * u + 2) / 153 + 3) (u - (153 * ((5 * u + 2) / 153) + 2) / 5 + 1) := by
  refine ⟨by omega, by omega, by omega, ?_⟩
  unfold daysInMonth
  rw [if_neg (by omega)]
  split <;> omega

-- January and February, which count to the next year.
theorem isDate_late {y : Int} (late : ¬(5 * u + 2) / 153 < 10) (year : u ≤ 365)
    (leap : u = 365 → Time.isLeapYear y = true) :
    IsDate y ((5 * u + 2) / 153 - 9) (u - (153 * ((5 * u + 2) / 153) + 2) / 5 + 1) := by
  refine ⟨by omega, by omega, by omega, ?_⟩
  unfold daysInMonth
  split
  case isTrue february =>
    by_cases last : u = 365
    case pos =>
      rw [leap last, if_pos rfl]
      omega
    case neg => split <;> omega
  case isFalse january =>
    rw [if_neg (by omega)]
    omega

-- The date of a day number is in the calendar, and has that number.
theorem exists_civil (day : Int) :
    ∃ y m d, civil day = (y, m, d) ∧ dayNumber y m d = day ∧ IsDate y m d := by
  have ⟨c, q, t, u, of⟩ := exists_isDayOf (n := ((day + 719468) % 146097).toNat) (by omega)
  have number := of.daysBefore_year rfl (e := (day + 719468) / 146097)
  have leapYear := of.isLeapYear rfl (e := (day + 719468) / 146097)
  have isDay := of.day
  have year : u ≤ 365 := of.leap.elim Nat.le_of_lt fun last => Nat.le_of_eq last.1
  have rest : ((day + 719468) % 146097).toNat - (36524 * c + 1461 * q + 365 * t) = u := by omega
  unfold civil
  dsimp only
  rw [of.yearOfEra_eq, of.daysBefore_eq, rest]
  split
  case isTrue early =>
    refine ⟨_, _, _, rfl, ?_, isDate_early early⟩
    have same : ((5 * u + 2) / 153 + 3 + 9) % 12 = (5 * u + 2) / 153 := by omega
    unfold dayNumber
    dsimp only
    rw [if_neg (by omega), same, number]
    omega
  case isFalse late =>
    refine ⟨_, _, _, rfl, ?_, isDate_late late year leapYear⟩
    have same : ((5 * u + 2) / 153 - 9 + 9) % 12 = (5 * u + 2) / 153 := by omega
    unfold dayNumber
    dsimp only
    rw [if_pos (by omega), same, Int.add_sub_cancel, number]
    omega

end Calendar

section Parts

variable {k low high w : Nat} {y : Int} {ch : Char} {cs rest : List Char}

-- No digit stands here.
def Ends (rest : List Char) : Prop :=
  ∀ ch ∈ rest.head?, ¬ch.isDigit

theorem ends_cons (h : ¬ch.isDigit) : Ends (ch :: cs) := by
  rintro _ ⟨⟩
  exact h

theorem Ends.takeWhile_take (ends : Ends rest) :
    (rest.take k).takeWhile (fun ch => (Text.Decimal.digit? ch).isSome) = [] := by
  cases rest with
  | nil          => simp
  | cons ch rest =>
    have other := Text.Decimal.digit?_of_not_isDigit (ends ch rfl)
    cases k with
    | zero   => rfl
    | succ _ => simp [other]

theorem toList_padded : (padded w n).toList =
    List.replicate (w - (Nat.toDigits 10 n).length) '0' ++ Nat.toDigits 10 n :=
  String.toList_ofList

theorem isDigit_padded : ∀ ch ∈ (padded w n).toList, ch.isDigit := by
  intro ch mem
  rw [toList_padded, List.mem_append] at mem
  cases mem with
  | inl zero  => exact List.eq_of_mem_replicate zero ▸ rfl
  | inr digit => exact Nat.isDigit_of_mem_toDigits (by decide) (by decide) digit

theorem value_padded : Nat.ofDigitChars 10 (padded w n).toList 0 = n := by
  rw [toList_padded, Nat.ofDigitChars_append, Nat.ofDigitChars_replicate_zero, Nat.mul_zero,
    Nat.ofDigitChars_ten_toDigits]

theorem length_padded : (padded w n).toList.length = max w (Nat.toDigits 10 n).length := by
  rw [toList_padded, List.length_append, List.length_replicate]
  omega

theorem length_padded_le (pos : 0 < w) (short : n < 10 ^ w) :
    (padded w n).toList.length ≤ w := by
  rw [length_padded]
  exact Nat.max_le.2 ⟨.refl, (Nat.length_toDigits_le_iff (by decide) pos).2 short⟩

theorem exists_padded : ∃ ch cs, (padded w n).toList = ch :: cs ∧ ch.isDigit := by
  have all := isDigit_padded (w := w) (n := n)
  cases hp : (padded w n).toList with
  | nil        =>
    have digits := Nat.length_toDigits_pos (b := 10) (n := n)
    have empty : (padded w n).toList.length = 0 := List.length_eq_zero_iff.2 hp
    rw [length_padded] at empty
    omega
  | cons ch cs => exact ⟨ch, cs, rfl, all ch (hp ▸ .head _)⟩

theorem number_padded (fits : (padded w n).toList.length ≤ k) (small : n < 2 ^ 63)
    (ends : Ends rest) : number k ((padded w n).toList ++ rest) = .ok (n, rest) := by
  have ⟨ch, cs, hp, _⟩ := exists_padded (w := w) (n := n)
  have all : ∀ ch ∈ (padded w n).toList, (Text.Decimal.digit? ch).isSome := fun ch mem => by
    rw [Text.Decimal.digit?_of_isDigit (isDigit_padded ch mem)]
    rfl
  have digits : (((padded w n).toList ++ rest).take k).takeWhile
      (fun ch => (Text.Decimal.digit? ch).isSome) = (padded w n).toList := by
    rw [List.take_append, List.take_of_length_le fits, List.takeWhile_append_of_pos all,
      ends.takeWhile_take, List.append_nil]
  have value : Text.Decimal.digits (2 ^ 63) 0 (padded w n).toList = .ok n := by
    rw [Text.Decimal.digits_ok isDigit_padded (by rwa [value_padded]), value_padded]
  have behind : ((padded w n).toList ++ rest).drop (padded w n).toList.length = rest :=
    List.drop_left
  unfold number
  dsimp only
  rw [digits]
  rw [hp] at value behind ⊢
  rw [List.cons_append] at behind ⊢
  dsimp only
  rw [value, behind]

theorem isBlank_of_isDigit (h : ch.isDigit) : Text.isBlank ch = false := by
  simp only [Char.isDigit, Bool.and_eq_true, decide_eq_true_eq, UInt32.le_iff_toNat_le] at h
  have low : 48 ≤ ch.toNat := h.1
  have high : ch.toNat ≤ 57 := h.2
  simp only [Text.isBlank, Bool.or_eq_false_iff, Bool.and_eq_false_iff, decide_eq_false_iff_not,
    beq_eq_false_iff_ne]
  omega

theorem bind_ok {α β : Type} {x : Scan α} {f : α → Scan β} {a : α} {cs cs' : List Char}
    (h : x cs = .ok (a, cs')) : (x >>= f) cs = f a cs' := by
  show StateT.bind x f cs = _
  rw [StateT.bind, h]
  rfl

theorem bind_get {α : Type} {f : List Char → Scan α} : (get >>= f) cs = f cs cs :=
  rfl

theorem bind_set {α : Type} {f : PUnit → Scan α} : (set rest >>= f) cs = f ⟨⟩ rest :=
  rfl

theorem skipBlanks_cons (h : Text.isBlank ch = false) :
    skipBlanks (ch :: cs) = .ok ((), ch :: cs) := by
  have same : Text.trimLeft (ch :: cs) = ch :: cs := by simp [Text.trimLeft, h]
  exact congrArg (fun cs => Except.ok ((), cs)) same

theorem literal_cons (h : Text.isBlank ch = false) : literal ch (ch :: rest) = .ok ((), rest) := by
  refine (bind_ok (skipBlanks_cons h)).trans ?_
  show (if ch = ch then (set rest : Scan Unit) else throw .invalid) (ch :: rest) = _
  rw [if_pos rfl]
  rfl

theorem part_padded (hl : low ≤ n) (hh : n ≤ high) (two : high < 100) (ends : ¬ch.isDigit) :
    part low high ((padded 2 n).toList ++ ch :: rest) = .ok (n, ch :: rest) := by
  have ⟨_, _, hp, digit⟩ := exists_padded (w := 2) (n := n)
  have number := number_padded (length_padded_le (w := 2) (by decide) (Nat.lt_of_le_of_lt hh two))
    (by omega : n < 2 ^ 63) (ends_cons ends : Ends (ch :: rest))
  rw [hp, List.cons_append] at number ⊢
  refine (bind_ok (skipBlanks_cons (isBlank_of_isDigit digit))).trans ?_
  refine (bind_ok number).trans ?_
  show (if low ≤ n ∧ n ≤ high then (pure n : Scan Nat) else throw .outOfRange) (ch :: rest) = _
  rw [if_pos ⟨hl, hh⟩]
  rfl

theorem year_unsigned (digit : ch.isDigit) (read : number 4 (ch :: cs) = .ok (n, rest)) :
    year (ch :: cs) = .ok ((n : Int), rest) := by
  refine (bind_ok (skipBlanks_cons (isBlank_of_isDigit digit))).trans ?_
  refine bind_get.trans ?_
  generalize hl : ch :: cs = l at read ⊢
  split
  case h_1 =>
    cases hl
    cases digit
  case h_2 =>
    cases hl
    cases digit
  case h_3 => exact (bind_ok read).trans rfl

theorem within_ok (inside : y.natAbs < 2 ^ 31) : year.within y cs = .ok (y, cs) := by
  rw [year.within, if_pos inside]
  rfl

-- A year as it is written.
def yearText (y : Int) : String :=
  if 0 ≤ y ∧ y ≤ 9999 then padded 4 y.toNat
  else (if 0 ≤ y then "+" else "-") ++ padded 4 y.natAbs

theorem year_yearText (inside : y.natAbs ≤ maxYear) (ends : Ends rest) :
    year ((yearText y).toList ++ rest) = .ok (y, rest) := by
  have inWord : y.natAbs < 2 ^ 31 := Nat.lt_of_le_of_lt inside (by decide)
  have signed : number (2 ^ 64) ((padded 4 y.natAbs).toList ++ rest) = .ok (y.natAbs, rest) := by
    have digits := (Nat.length_toDigits_le_iff (b := 10) (n := y.natAbs) (k := 10) (by decide)
      (by decide)).2 (by omega)
    exact number_padded (by rw [length_padded]; omega) (by omega) ends
  unfold yearText
  split
  case isTrue short =>
    have ⟨ch, cs, hp, digit⟩ := exists_padded (w := 4) (n := y.toNat)
    have read := number_padded (length_padded_le (w := 4) (n := y.toNat) (by decide) (by omega))
      (by omega) ends
    rw [hp, List.cons_append] at read ⊢
    rw [year_unsigned digit read, Int.toNat_of_nonneg short.1]
  case isFalse long =>
    rw [String.toList_append]
    split
    case isTrue positive  =>
      refine (bind_ok (skipBlanks_cons rfl)).trans ?_
      refine bind_get.trans (bind_set.trans ?_)
      refine (bind_ok signed).trans ?_
      rw [Int.natAbs_of_nonneg positive, within_ok inWord]
    case isFalse negative =>
      refine (bind_ok (skipBlanks_cons rfl)).trans ?_
      refine bind_get.trans (bind_set.trans ?_)
      refine (bind_ok signed).trans ?_
      rw [show -(y.natAbs : Int) = y by omega, within_ok inWord]

end Parts

section Text

variable {t : Time}

-- A moment of the calendar: of a year that it has, and a leap second only as the 61st of a minute.
structure IsSound (t : Time) : Prop where
  year : (civil (t.seconds / 86400)).1.natAbs ≤ maxYear
  leap : t.leap → t.seconds % 60 = 59

theorem toList_text {y : Int} {m d s : Nat} (date : civil (t.seconds / 86400) = (y, m, d))
    (clock : (t.seconds % 86400).toNat = s) : t.text.toList =
      (yearText y).toList ++ '-' :: ((padded 2 m).toList ++ '-' :: ((padded 2 d).toList ++ 'T' ::
        ((padded 2 (s / 3600)).toList ++ ':' :: ((padded 2 (s / 60 % 60)).toList ++ ':' ::
          ((padded 2 (s % 60 + if t.leap then 1 else 0)).toList ++ ['Z']))))) := by
  unfold text
  rw [date, clock]
  simp [yearText, String.toList_append]

-- The leap second shares the number of the second before it.
theorem IsSound.second (sound : t.IsSound) {s : Nat} (clock : (t.seconds % 86400).toNat = s) :
    s % 60 + (if t.leap then 1 else 0) ≤ 60 ∧
      min (s % 60 + if t.leap then 1 else 0) 59 = s % 60 ∧
      decide (s % 60 + (if t.leap then 1 else 0) = 60) = t.leap := by
  cases hl : t.leap with
  | false =>
    rw [if_neg Bool.false_ne_true]
    exact ⟨by omega, by omega, decide_eq_false (by omega)⟩
  | true  =>
    have last := sound.leap hl
    rw [if_pos rfl]
    exact ⟨by omega, by omega, decide_eq_true (by omega)⟩

theorem scan_text (sound : t.IsSound) : scan t.text.toList = .ok (t, []) := by
  have ⟨y, m, d, date, number, calendar⟩ := exists_civil (t.seconds / 86400)
  have inside := sound.year
  rw [date] at inside
  have short : d ≤ 31 := Nat.le_trans calendar.dates daysInMonth_le
  have valid : ¬(maxYear < y.natAbs ∨ daysInMonth y m < d ∨ 86400 ≤ Int.natAbs 0) := by
    rintro (far | late | shift)
    · exact Nat.not_le.2 far inside
    · exact Nat.not_le.2 late calendar.dates
    · cases shift
  obtain ⟨s, clock⟩ : ∃ s, (t.seconds % 86400).toNat = s := ⟨_, rfl⟩
  have ⟨second, shared, leap⟩ := sound.second clock
  rw [toList_text date clock]
  unfold scan
  refine (bind_ok (year_yearText inside (ends_cons (by decide)))).trans ?_
  refine (bind_ok (literal_cons rfl)).trans ?_
  refine (bind_ok (part_padded calendar.month calendar.months (by decide) (by decide))).trans ?_
  refine (bind_ok (literal_cons rfl)).trans ?_
  refine (bind_ok (part_padded calendar.date short (by decide) (by decide))).trans ?_
  refine bind_get.trans ?_
  dsimp only
  rw [if_pos (.inr (.inl rfl))]
  refine bind_set.trans ?_
  refine (bind_ok (part_padded (Nat.zero_le _) (by omega) (by decide) (by decide))).trans ?_
  refine (bind_ok (literal_cons rfl)).trans ?_
  refine (bind_ok (part_padded (Nat.zero_le _) (by omega) (by decide) (by decide))).trans ?_
  refine (bind_ok (literal_cons rfl)).trans ?_
  refine (bind_ok (part_padded (Nat.zero_le _) second (by decide) (by decide))).trans ?_
  -- No fraction, no offset, and nothing behind.
  refine (bind_ok (a := ⟨⟩) rfl).trans ?_
  refine (bind_ok (a := 0) rfl).trans ?_
  refine (bind_ok (a := ⟨⟩) rfl).trans ?_
  refine bind_get.trans ?_
  rw [if_neg (by decide), if_neg valid, number, shared, leap]
  have whole : t.seconds / 86400 * 86400 +
      ((s / 3600 : Nat) * 3600 + (s / 60 % 60 : Nat) * 60 + (s % 60 : Nat)) - 0 = t.seconds := by
    omega
  rw [whole]
  rfl

-- What is written is read again.
theorem ofText_text (sound : t.IsSound) : ofText t.text = .ok t := by
  rw [ofText, scan_text sound]
  rfl

end Text

end ArtifactSync.Kubernetes.Time

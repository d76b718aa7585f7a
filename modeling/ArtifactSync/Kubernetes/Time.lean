import ArtifactSync.Instances
import ArtifactSync.Text.Blank
import ArtifactSync.Text.Decimal

namespace ArtifactSync.Kubernetes

-- Seconds since the start of 1970; `leap` tells the 61st second of a minute from the 60th.
structure Time where
  seconds : Int
  leap : Bool
  deriving DecidableEq, Repr

namespace Time

inductive Fault
  | outOfRange
  | impossible
  | invalid
  | tooShort
  | tooLong
  deriving DecidableEq, Repr

def Fault.message : Fault → String
  | outOfRange => "input is out of range"
  | impossible => "no possible date and time matching input"
  | invalid => "input contains invalid characters"
  | tooShort => "premature end of input"
  | tooLong => "trailing input"

abbrev Scan (α : Type) := StateT (List Char) (Except Fault) α

def skipBlanks : Scan Unit :=
  modify Text.trimLeft

-- A number of at most `width` digits; more than fit a signed 64-bit word are too many.
def number (width : Nat) : Scan Nat := fun cs =>
  let digits := (cs.take width).takeWhile fun c => (Text.Decimal.digit? c).isSome
  match cs, digits with
  | [], _ => .error .tooShort
  | _ :: _, [] => .error .invalid
  | cs, digits =>
    match Text.Decimal.digits (2 ^ 63) 0 digits with
    | .ok n => .ok (n, cs.drop digits.length)
    | .error _ => .error .outOfRange

def part (low high : Nat) : Scan Nat := do
  skipBlanks
  let n ← number 2
  if low ≤ n ∧ n ≤ high then return n else throw .outOfRange

def year : Scan Int := do
  skipBlanks
  match ← get with
  | '-' :: rest =>
    set rest
    within (-(← number (2 ^ 64)))
  | '+' :: rest =>
    set rest
    within (← number (2 ^ 64))
  | _ => return (← number 4)
where
  within (n : Int) : Scan Int :=
    if n.natAbs < 2 ^ 31 then return n else throw .outOfRange

def literal (c : Char) : Scan Unit := do
  skipBlanks
  match ← get with
  | [] => throw .tooShort
  | d :: rest => if d = c then set rest else throw .invalid

def fraction : Scan Unit := do
  match ← get with
  | '.' :: rest =>
    set rest
    let _ ← number 9
    modify (·.dropWhile fun c => (Text.Decimal.digit? c).isSome)
  | _ => return

def twoDigits? : List Char → Option (Nat × Nat × List Char)
  | a :: b :: rest => do return (← Text.Decimal.digit? a, ← Text.Decimal.digit? b, rest)
  | _ => none

-- The offset from universal time, in seconds.
def offset : Scan Int := do
  skipBlanks
  let cs ← get
  match cs with
  | 'Z' :: rest | 'z' :: rest =>
    set rest
    return 0
  | u :: t :: c :: rest =>
    if (u = 'U' ∨ u = 'u') ∧ (t = 'T' ∨ t = 't') ∧ (c = 'C' ∨ c = 'c') then
      set rest
      return 0
    else signed cs
  | _ => signed cs
where
  signed : List Char → Scan Int
    | [] => throw .tooShort
    | sign :: cs => do
      if sign ≠ '+' ∧ sign ≠ '-' ∧ sign ≠ '\u2212' then throw .invalid
      -- Too short is what has fewer bytes than the two digits, whatever they are.
      if (String.ofList cs).utf8ByteSize < 2 then throw .tooShort
      match twoDigits? cs with
      | none => throw .invalid
      | some (h₁, h₂, cs) =>
        let cs := cs.dropWhile fun c => c = ':' || Text.isBlank c
        if (String.ofList cs).utf8ByteSize < 2 then throw .tooShort
        match twoDigits? cs with
        | none => throw .invalid
        | some (m₁, m₂, cs) =>
          if 6 ≤ m₁ then throw .outOfRange
          set cs
          let seconds : Int := (h₁ * 10 + h₂) * 3600 + (m₁ * 10 + m₂) * 60
          return if sign = '+' then seconds else -seconds

def isLeapYear (y : Int) : Bool :=
  y % 4 = 0 && (y % 100 ≠ 0 || y % 400 = 0)

def daysInMonth (y : Int) (m : Nat) : Nat :=
  if m = 2 then (if isLeapYear y then 29 else 28)
  else if m = 4 ∨ m = 6 ∨ m = 9 ∨ m = 11 then 30
  else 31

-- Days since the start of 1970. The year is counted from March, so that a leap day comes last.
def dayNumber (y : Int) (m d : Nat) : Int :=
  let y := if m ≤ 2 then y - 1 else y
  -- Five months from March on have 153 days, and so on.
  let m := (m + 9) % 12
  365 * y + y / 4 - y / 100 + y / 400 + (153 * m + 2) / 5 + d - 1 - 719468

-- The year, month and day of a day number.
def civil (day : Int) : Int × Nat × Nat :=
  let z := day + 719468
  let era := z / 146097
  let dayOfEra := (z % 146097).toNat
  let yearOfEra := (dayOfEra - dayOfEra / 1460 + dayOfEra / 36524 - dayOfEra / 146096) / 365
  let dayOfYear := dayOfEra - (365 * yearOfEra + yearOfEra / 4 - yearOfEra / 100)
  let m := (5 * dayOfYear + 2) / 153
  let d := dayOfYear - (153 * m + 2) / 5 + 1
  let y := yearOfEra + era * 400
  if m < 10 then (y, m + 3, d) else (y + 1, m - 9, d)

def maxYear : Nat := 262142

def scan : Scan Time := do
  let y ← year
  literal '-'
  let m ← part 1 12
  literal '-'
  let d ← part 1 31
  match ← get with
  | [] => throw .tooShort
  | c :: rest => if c = 't' ∨ c = 'T' ∨ c = ' ' then set rest else throw .invalid
  let hour ← part 0 23
  literal ':'
  let minute ← part 0 59
  literal ':'
  let second ← part 0 60
  fraction
  let shift ← offset
  skipBlanks
  if !(← get).isEmpty then throw .tooLong
  if maxYear < y.natAbs ∨ daysInMonth y m < d ∨ 86400 ≤ shift.natAbs then throw .outOfRange
  -- The leap second shares the number of the second before it.
  let inDay : Int := hour * 3600 + minute * 60 + min second 59
  return ⟨dayNumber y m d * 86400 + inDay - shift, second = 60⟩

def ofText (s : String) : Except Fault Time :=
  (scan s.toList).map (·.1)

def padded (width n : Nat) : String :=
  let digits := Nat.toDigits 10 n
  String.ofList (List.replicate (width - digits.length) '0' ++ digits)

def text (t : Time) : String :=
  let (y, m, d) := civil (t.seconds / 86400)
  let inDay := (t.seconds % 86400).toNat
  let second := inDay % 60 + if t.leap then 1 else 0
  let year :=
    if 0 ≤ y ∧ y ≤ 9999 then padded 4 y.toNat
    else (if 0 ≤ y then "+" else "-") ++ padded 4 y.natAbs
  year ++ "-" ++ padded 2 m ++ "-" ++ padded 2 d ++ "T" ++ padded 2 (inDay / 3600) ++ ":" ++
    padded 2 (inDay / 60 % 60) ++ ":" ++ padded 2 second ++ "Z"

end Time

end ArtifactSync.Kubernetes

import ArtifactSync.Instances
import ArtifactSync.Json.Fault
import ArtifactSync.Text.Utf8

namespace ArtifactSync.Json

-- A float is held by its bits.
inductive Number
  | natural (n : Nat)
  | negative (n : Nat)
  | float (bits : UInt64)
  deriving Repr, DecidableEq

def isDigit (b : UInt8) : Bool :=
  0x30 ≤ b && b ≤ 0x39

def digitValue (b : UInt8) : Nat :=
  b.toNat - 0x30

namespace Numeral

-- The parts of a number as written: the digits before the point, those after it, and the exponent
-- with its direction.
structure Written where
  negative : Bool
  whole : Bytes
  fraction : Option Bytes
  exponent : Option (Bool × Bytes)

-- Where a number breaks off, or meets a byte that cannot come next.
inductive Broken
  | ended (place : Nat)
  | wrong (place : Nat)

def scanWhole (place : Nat) : Bytes → Except Broken (Bytes × Nat × Bytes)
  | [] => .error (.ended place)
  | b :: rest =>
    if b = 0x30 then
      match rest with
      | c :: _ => if isDigit c then .error (.wrong (place + 2)) else .ok ([b], place + 1, rest)
      | [] => .ok ([b], place + 1, [])
    else if isDigit b then
      let more := rest.takeWhile isDigit
      .ok (b :: more, place + 1 + more.length, rest.dropWhile isDigit)
    else .error (.wrong (place + 1))

def scanFraction (place : Nat) : Bytes → Except Broken (Option Bytes × Nat × Bytes)
  | 0x2E :: rest =>
    match rest.takeWhile isDigit with
    | [] => .error (if rest.isEmpty then .ended (place + 1) else .wrong (place + 2))
    | digits => .ok (some digits, place + 1 + digits.length, rest.dropWhile isDigit)
  | rest => .ok (none, place, rest)

def scanExponent (place : Nat) : Bytes → Except Broken (Option (Bool × Bytes) × Nat)
  | [] => .ok (none, place)
  | b :: rest =>
    if b = 0x65 ∨ b = 0x45 then
      let (up, place, rest) :=
        match rest with
        | 0x2B :: rest => (true, place + 2, rest)
        | 0x2D :: rest => (false, place + 2, rest)
        | rest => (true, place + 1, rest)
      match rest.takeWhile isDigit with
      | [] => .error (if rest.isEmpty then .ended place else .wrong (place + 1))
      | digits => .ok (some (up, digits), place + digits.length)
    else .ok (none, place)

-- Gives the parts, the place of the exponent's digits and the place after the number.
def scan (place : Nat) (bytes : Bytes) : Except Broken (Written × Nat) := do
  let (negative, place, bytes) :=
    match bytes with
    | 0x2D :: rest => (true, place + 1, rest)
    | bytes => (false, place, bytes)
  let (whole, place, bytes) ← scanWhole place bytes
  let (fraction, place, bytes) ← scanFraction place bytes
  let (exponent, place) ← scanExponent place bytes
  return (⟨negative, whole, fraction, exponent⟩, place)

def significandBound : Nat := 2 ^ 64

-- Appends digits to a significand while it stays in its word, counting those that went in.
def absorb (significand : Nat) (count : Nat) : Bytes → Nat × Nat × Bytes
  | [] => (significand, count, [])
  | b :: rest =>
    let next := significand * 10 + digitValue b
    if next < significandBound then absorb next (count + 1) rest
    else (significand, count, b :: rest)

def powerOfTen (n : Nat) : Float :=
  Float.ofScientific 1 false n

-- Scales in steps of at most 308 powers of ten, and has no answer past the largest float.
def scale (x : Float) (exponent : Int) : Nat → Option Float
  | 0 => some x
  | fuel + 1 =>
    if exponent.natAbs ≤ 308 then
      if 0 ≤ exponent then
        let y := x * powerOfTen exponent.natAbs
        if y.isInf then none else some y
      else some (x / powerOfTen exponent.natAbs)
    else if x == 0.0 then some x
    else if 0 ≤ exponent then none
    else scale (x / powerOfTen 308) (exponent + 308) fuel

def floatOf (negative : Bool) (significand : Nat) (exponent : Int) : Option Number :=
  (scale (UInt64.ofNat significand).toFloat exponent 4).map fun x =>
    .float (if negative then -x else x).toBits

-- The exponent's word has 31 bits for its digits; past them it counts as endless. Gives the value,
-- or how many digits had been read when it stopped to fit.
def exponentDigits (value count : Nat) : Bytes → Nat ⊕ Nat
  | [] => .inl value
  | b :: rest =>
    let next := value * 10 + digitValue b
    if next < 2 ^ 31 then exponentDigits next (count + 1) rest else .inr (count + 1)

-- The number written so, or how many of the exponent's digits already show that no float can hold
-- it; `none` where only the whole shows it.
def Written.number (w : Written) : Except (Option Nat) Number :=
  let (significand, _, left) := absorb 0 0 w.whole
  let plain := left.isEmpty && w.fraction.isNone && w.exponent.isNone
  if plain && !w.negative then .ok (.natural significand)
  else if plain && significand ≠ 0 && significand ≤ 2 ^ 63 then .ok (.negative significand)
  else
    -- What is left of the whole digits raises the exponent, what was taken of the others lowers it.
    let (significand, taken, _) := absorb significand 0 (w.fraction.getD [])
    let exponent : Int := left.length - taken
    let finish (exponent : Int) : Except (Option Nat) Number :=
      match floatOf w.negative significand exponent with
      | some n => .ok n
      | none => .error none
    match w.exponent with
    | none => finish exponent
    | some (up, digits) =>
      match exponentDigits 0 0 digits with
      | .inl e => finish (if up then exponent + e else exponent - e)
      | .inr count =>
        -- Zero stays zero, and what is divided too often becomes zero.
        if significand ≠ 0 && up then .error (some count)
        else .ok (.float (if w.negative then -0.0 else 0.0 : Float).toBits)

-- Reads a number that starts at `place`: its value, and the place after it.
def read (place : Nat) (bytes : Bytes) : Except Fault Number × Except Fault Nat :=
  match scan place bytes with
  | .error (.ended p) => (.error ⟨.endInValue, some p⟩, .error ⟨.invalidNumber, some p⟩)
  | .error (.wrong p) => (.error ⟨.invalidNumber, some p⟩, .error ⟨.invalidNumber, some p⟩)
  | .ok (w, stop) =>
    let value :=
      match w.number with
      | .ok n => .ok n
      | .error none => .error ⟨.numberOutOfRange, some stop⟩
      | .error (some count) =>
        let digits := (w.exponent.map (·.2.length)).getD 0
        .error ⟨.numberOutOfRange, some (stop - digits + count)⟩
    (value, .ok stop)

end Numeral

end ArtifactSync.Json

import ArtifactSync.Instances

namespace ArtifactSync.Text.Shortest

-- `digits * 10 ^ exponent`.
structure Decimal where
  digits : Nat
  exponent : Int

-- The number `quarters * 2 ^ q / 4`, and the ends of the interval that rounds to it, in the same
-- quarters. The ends belong to it when the mantissa is even.
structure Interval where
  low : Nat
  quarters : Nat
  high : Nat
  closed : Bool
  q : Int

def Interval.ofBits (bits : UInt64) : Interval :=
  let fraction := bits.toNat % 2 ^ 52
  let e := bits.toNat / 2 ^ 52 % 2 ^ 11
  let m := if e = 0 then fraction else 2 ^ 52 + fraction
  let q : Int := (if e = 0 then 1 else e : Nat) - 1075
  -- Just above a power of two the neighbour below is only half as far away.
  let below := if fraction = 0 && 1 < e then 1 else 2
  ⟨4 * m - below, 4 * m, 4 * m + 2, m % 2 = 0, q - 2⟩

-- Compares `a * 10 ^ k` with `b * 2 ^ q`.
def compareScaled (a : Nat) (k : Int) (b : Nat) (q : Int) : Ordering :=
  compare (a * 10 ^ k.toNat * 2 ^ (-q).toNat) (b * 2 ^ q.toNat * 10 ^ (-k).toNat)

def Interval.holds (i : Interval) (a : Nat) (k : Int) : Bool :=
  let low := compareScaled a k i.low i.q
  let high := compareScaled a k i.high i.q
  if i.closed then low != .lt && high != .gt else low == .gt && high == .lt

-- The power of ten of the first digit of `b * 2 ^ q`.
def magnitude (b : Nat) (q : Int) : Int :=
  let whole := b * 2 ^ q.toNat / 2 ^ (-q).toNat
  if whole ≠ 0 then (Nat.toDigits 10 whole).length - 1
  else below 400 1
where
  below : Nat → Nat → Int
    | 0, j => -j
    | fuel + 1, j => if compareScaled 1 (-j) b q != .gt then -j else below fuel (j + 1)

-- The point of the grid of `10 ^ k` that lies in the interval, the nearer of two.
def Interval.onGrid (i : Interval) (k : Int) : Option Decimal :=
  let down := i.quarters * 2 ^ i.q.toNat * 10 ^ (-k).toNat / (10 ^ k.toNat * 2 ^ (-i.q).toNat)
  let up := down + 1
  match i.holds down k, i.holds up k with
  | false, false => none
  | true, false => some ⟨down, k⟩
  | false, true => some ⟨up, k⟩
  | true, true =>
    match compareScaled (down + up) k (2 * i.quarters) i.q with
    | .gt => some ⟨down, k⟩
    | .lt => some ⟨up, k⟩
    | .eq => some ⟨if down % 2 = 0 then down else up, k⟩

def decimal (bits : UInt64) : Decimal :=
  let i := Interval.ofBits bits
  let top := magnitude i.quarters i.q
  ((List.range 17).findSome? fun (n : Nat) => i.onGrid (top - n)).getD ⟨i.quarters, 0⟩

def dropZeros (digits : List Char) : List Char :=
  (digits.reverse.dropWhile (· == '0')).reverse

def zeros (n : Nat) : List Char :=
  List.replicate n '0'

def exponentText (e : Int) : List Char :=
  let digits := Nat.toDigits 10 e.natAbs
  (if 0 ≤ e then '+' else '-') :: (zeros (2 - digits.length) ++ digits)

def render (d : Decimal) : List Char :=
  let all := Nat.toDigits 10 d.digits
  let e : Int := d.exponent + (all.length - 1)
  let digits := dropZeros all
  -- Zeros at the end are not significant: whole numbers get one after the point below.
  if e < -5 || 15 < e then
    let tail := digits.tail
    digits.take 1 ++ (if tail.isEmpty then [] else '.' :: tail) ++ 'e' :: exponentText e
  else if e < 0 then '0' :: '.' :: (zeros (e.natAbs - 1) ++ digits)
  else
    let n := e.toNat + 1
    if digits.length ≤ n then digits ++ zeros (n - digits.length) ++ ['.', '0']
    else digits.take n ++ '.' :: digits.drop n

def text (bits : UInt64) : String :=
  let negative := 2 ^ 63 ≤ bits.toNat
  let body := if bits.toNat % 2 ^ 63 = 0 then ['0', '.', '0'] else render (decimal bits)
  String.ofList (if negative then '-' :: body else body)

end ArtifactSync.Text.Shortest

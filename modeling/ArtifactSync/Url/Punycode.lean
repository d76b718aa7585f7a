import ArtifactSync.Instances

namespace ArtifactSync.Url.Punycode

def base : Nat := 36

def threshold (bias k : Nat) : Nat :=
  if k ≤ bias + 1 then 1 else if bias + 26 ≤ k then 26 else k - bias

theorem threshold_pos (bias k : Nat) : 1 ≤ threshold bias k := by
  unfold threshold
  split
  · omega
  · split <;> omega

def settle (delta k : Nat) : Nat :=
  if 455 < delta then settle (delta / 35) (k + base) else k + 36 * delta / (delta + 38)
termination_by delta
decreasing_by exact Nat.div_lt_self (by omega) (by omega)

-- The bias after a difference, with `count` characters now in the text.
def adapt (delta count : Nat) (isFirst : Bool) : Nat :=
  let delta := if isFirst then delta / 700 else delta / 2
  settle (delta + delta / count) 0

def digit (n : Nat) : Char :=
  if n < 26 then Char.ofNat ('a'.toNat + n) else Char.ofNat ('0'.toNat + (n - 26))

def digitValue? (c : Char) : Option Nat :=
  if 'a' ≤ c ∧ c ≤ 'z' then some (c.toNat - 'a'.toNat)
  else if 'A' ≤ c ∧ c ≤ 'Z' then some (c.toNat - 'A'.toNat)
  else if '0' ≤ c ∧ c ≤ '9' then some (c.toNat - '0'.toNat + 26)
  else none

def encodeNumber (bias k q : Nat) : List Char :=
  let t := threshold bias k
  if q < t then [digit q]
  else digit (t + (q - t) % (base - t)) :: encodeNumber bias (k + base) ((q - t) / (base - t))
termination_by q
decreasing_by
  have := threshold_pos bias k
  have := Nat.div_le_self (q - threshold bias k) (base - threshold bias k)
  omega

-- What the encoder carries: the difference so far, the bias, and the characters written.
structure Progress where
  delta : Nat
  bias : Nat
  count : Nat
  written : List Char

def visit (plain n : Nat) (p : Progress) (c : Char) : Progress :=
  if c.toNat < n then { p with delta := p.delta + 1 }
  else if c.toNat = n then
    ⟨0, adapt p.delta (p.count + 1) (p.count == plain), p.count + 1,
      p.written ++ encodeNumber p.bias base p.delta⟩
  else p

def encodeRest (cs : List Char) (plain : Nat) : List Nat → Nat → Progress → List Char
  | [], _, p => p.written
  | m :: rest, n, p =>
    let p := { p with delta := p.delta + (m - n) * (p.count + 1) }
    let p := cs.foldl (visit plain m) p
    encodeRest cs plain rest (m + 1) { p with delta := p.delta + 1 }

def encode (cs : List Char) : List Char :=
  let plain := cs.filter (·.toNat < 0x80)
  let others := ((cs.filter (0x80 ≤ ·.toNat)).map (·.toNat)).mergeSort.eraseReps
  let start := if plain.isEmpty then [] else plain ++ ['-']
  encodeRest cs plain.length others 0x80 ⟨0, 72, plain.length, start⟩

def wordBound : Nat := 2 ^ 32

-- Reads one number, adding to `i`; gives what follows it.
def decodeNumber (bias k weight i : Nat) : List Char → Option (Nat × List Char)
  | [] => none
  | c :: rest => do
    let d ← digitValue? c
    let i := i + d * weight
    let t := threshold bias k
    if wordBound ≤ i then none
    else if d < t then some (i, rest)
    else decodeNumber bias (k + base) (weight * (base - t)) i rest

def decodeRest (n i bias : Nat) (text : List Char) : Nat → List Char → Option (List Char)
  | _, [] => some text
  | 0, _ :: _ => none
  | fuel + 1, cs => do
    let (next, rest) ← decodeNumber bias base 1 i cs
    let count := text.length + 1
    let n := n + next / count
    let place := next % count
    if h : n.isValidChar then
      decodeRest n (place + 1) (adapt (next - i) count (i == 0))
        (text.take place ++ Char.ofNatAux n h :: text.drop place) fuel rest
    else none

-- The last hyphen ends the plain characters.
def decode (cs : List Char) : Option (List Char) :=
  let others := (cs.reverse.takeWhile (· ≠ '-')).reverse
  let plain := cs.take (cs.length - others.length - 1)
  let others := if others.length = cs.length then cs else others
  if plain.all (·.toNat < 0x80) then decodeRest 0x80 0 72 plain others.length others else none

end ArtifactSync.Url.Punycode

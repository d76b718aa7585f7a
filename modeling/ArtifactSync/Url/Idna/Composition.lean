import ArtifactSync.Url.Idna.Script

namespace ArtifactSync.Url.Idna

open Text (Range)

structure Pair where
  whole : Nat
  first : Nat
  second : Nat

def Pair.ofWord? (word : List Char) : Option Pair :=
  match Text.hexNumbers word with
  | [whole, first, second] => some ⟨whole, first, second⟩
  | _ => none

def pairs : Array Pair :=
  (Text.tableWords composedPairs).toArray.filterMap Pair.ofWord?

def hangulFirst : Nat := 0xAC00

def hangulLead : Nat := 0x1100

def hangulVowel : Nat := 0x1161

-- One less than the first trailing consonant.
def hangulTrail : Nat := 0x11A7

def decomposeHangul (n : Nat) : List Nat :=
  let s := n - hangulFirst
  let trail := s % 28
  [hangulLead + s / 588, hangulVowel + s % 588 / 28] ++
    if trail = 0 then [] else [hangulTrail + trail]

def composeHangul? (a b : Nat) : Option Nat :=
  if hangulLead ≤ a ∧ a < hangulLead + 19 ∧ hangulVowel ≤ b ∧ b < hangulVowel + 21 then
    some (hangulFirst + ((a - hangulLead) * 21 + (b - hangulVowel)) * 28)
  else if hangulFirst ≤ a ∧ a < hangulFirst + 11172 ∧ (a - hangulFirst) % 28 = 0 ∧
      hangulTrail < b ∧ b < hangulTrail + 28 then
    some (a + (b - hangulTrail))
  else none

def pairOf? (n : Nat) : Option Pair :=
  Range.search (fun p => ⟨p.whole, p.whole⟩) pairs n

def decomposeWithin : Nat → Nat → List Nat
  | 0, n => [n]
  | depth + 1, n =>
    match pairOf? n with
    | none => [n]
    | some p => decomposeWithin depth p.first ++ [p.second]

def decomposeChar (c : Char) : List Char :=
  let n := c.toNat
  if n < 0xC0 then [c]
  else if hangulFirst ≤ n ∧ n < hangulFirst + 11172 then (decomposeHangul n).map Char.ofNat
  else (decomposeWithin 4 n).map Char.ofNat

-- Puts `c` behind all characters that are no marks and all marks of at most its class; the text is
-- held backwards.
def insertMark (c : Char) (k : Nat) : List Char → List Char
  | [] => [c]
  | d :: rest => if k < combiningClass d then d :: insertMark c k rest else c :: d :: rest

def order (cs : List Char) : List Char :=
  (cs.foldl (fun text c =>
    let k := combiningClass c
    if k = 0 then c :: text else insertMark c k text) []).reverse

def composePair? (a b : Char) : Option Char :=
  match composeHangul? a.toNat b.toNat with
  | some n => some (Char.ofNat n)
  | none =>
    (pairs.find? fun p => p.first = a.toNat && p.second = b.toNat).map (Char.ofNat ·.whole)

-- Goes on after a character `base` that marks may join; `kept` holds, backwards, the marks that did
-- not. A mark is cut off from `base` by a kept one of its class or above.
def joinMarks (base : Char) (kept : List Char) : List Char → List Char
  | [] => base :: kept.reverse
  | c :: rest =>
    let k := combiningClass c
    let reachable :=
      match kept.head? with
      | none => true
      | some last => combiningClass last < k
    match if reachable then composePair? base c else none with
    | some whole => joinMarks whole kept rest
    | none =>
      -- What is no mark ends the run, and may begin another one.
      if k = 0 then base :: kept.reverse ++ joinMarks c [] rest
      else joinMarks base (c :: kept) rest

-- Leading marks join nothing.
def joinAll : List Char → List Char
  | [] => []
  | c :: rest => if combiningClass c = 0 then joinMarks c [] rest else c :: joinAll rest

def compose (cs : List Char) : List Char :=
  if cs.all (·.toNat < 0x300) then cs else joinAll (order (cs.flatMap decomposeChar))

end ArtifactSync.Url.Idna

import ArtifactSync.Url.Ipv4

namespace ArtifactSync.Url.Ipv6

-- The groups read so far and how many stood before the gap.
structure Groups where
  pieces : List Nat
  gap : Option Nat

-- The four decimal numbers of an embedded address: no leading zeros, nothing behind them.
def embedded? (cs : List Char) : Option (Nat × Nat) := do
  let numbers ← (Text.splitOn '.' cs).mapM fun part => do
    if part.isEmpty || (1 < part.length && part.head? = some '0') then none
    else (Ipv4.digits? 10 part).filter (· ≤ 255)
  match numbers with
  | [a, b, c, d] => return (a * 256 + b, c * 256 + d)
  | _ => none

-- Reads groups; every round passes at least one character, and no more than nine are needed.
def groups? : Nat → Groups → List Char → Option Groups
  | _, g, [] => some g
  | 0, _, _ :: _ => none
  | fuel + 1, g, cs =>
    -- A full address goes no further, and neither does one with two gaps.
    if 8 ≤ g.pieces.length then none
    else
      match cs with
      | ':' :: rest =>
        if g.gap.isSome then none
        else groups? fuel { g with gap := some g.pieces.length } rest
      | cs =>
        let run := (cs.take 4).takeWhile fun c => (Text.Hexadecimal.value? c).isSome
        let value := (Ipv4.digits? 16 run).getD 0
        match cs.drop run.length with
        | [] => if run.isEmpty then none else some { g with pieces := g.pieces ++ [value] }
        | '.' :: _ => do
          if run.isEmpty || 6 < g.pieces.length then none
          let (a, b) ← embedded? cs
          return { g with pieces := g.pieces ++ [a, b] }
        | ':' :: rest =>
          if rest.isEmpty || run.isEmpty then none
          else groups? fuel { g with pieces := g.pieces ++ [value] } rest
        | _ => none

def address? (cs : List Char) : Option (List Nat) := do
  let start ←
    match cs with
    | ':' :: ':' :: rest => some (⟨[], some 0⟩, rest)
    | ':' :: _ => none
    | cs => some (⟨[], none⟩, cs)
  let g ← groups? (cs.length + 1) start.1 start.2
  match g.gap with
  | some n =>
    if 8 ≤ g.pieces.length then none
    else return g.pieces.take n ++ List.replicate (8 - g.pieces.length) 0 ++ g.pieces.drop n
  | none => if g.pieces.length = 8 then return g.pieces else none

-- The start and length of the longest run of zeros, the first of equals.
def longestZeros (pieces : List Nat) : Nat × Nat :=
  let best := pieces.foldl (fun (place, start, length, bestStart, bestLength) p =>
    if p = 0 then
      let start := if length = 0 then place else start
      let length := length + 1
      if bestLength < length then (place + 1, start, length, start, length)
      else (place + 1, start, length, bestStart, bestLength)
    else (place + 1, start, 0, bestStart, bestLength)) (0, 0, 0, 0, 0)
  (best.2.2.2.1, best.2.2.2.2)

def groupTexts (pieces : List Nat) : String :=
  String.intercalate ":" (pieces.map fun p => String.ofList (Nat.toDigits 16 p))

def text (pieces : List Nat) : String :=
  let (start, length) := longestZeros pieces
  if length < 2 then groupTexts pieces
  else groupTexts (pieces.take start) ++ "::" ++ groupTexts (pieces.drop (start + length))

end ArtifactSync.Url.Ipv6

import ArtifactSync.Text.Utf8

namespace ArtifactSync.Text.Base64

inductive Fault
  | symbol (byte : UInt8) (offset : Nat)
  | length (n : Nat)
  | lastSymbol (byte : UInt8) (offset : Nat)
  | padding
  deriving Repr, DecidableEq

def Fault.message : Fault → String
  | symbol byte offset => s!"Invalid symbol {byte.toNat}, offset {offset}."
  | length n => s!"Invalid input length: {n}"
  | lastSymbol byte offset => s!"Invalid last symbol {byte.toNat}, offset {offset}."
  | padding => "Invalid padding"

def pad : UInt8 := 0x3D

-- The symbol of a number below 64.
def symbol (n : Nat) : UInt8 :=
  if n < 26 then UInt8.ofNat (0x41 + n)
  else if n < 52 then UInt8.ofNat (0x61 + (n - 26))
  else if n < 62 then UInt8.ofNat (0x30 + (n - 52))
  else if n = 62 then 0x2B
  else 0x2F

def value? (b : UInt8) : Option Nat :=
  if 0x41 ≤ b ∧ b ≤ 0x5A then some (b.toNat - 0x41)
  else if 0x61 ≤ b ∧ b ≤ 0x7A then some (b.toNat - 0x61 + 26)
  else if 0x30 ≤ b ∧ b ≤ 0x39 then some (b.toNat - 0x30 + 52)
  else if b = 0x2B then some 62
  else if b = 0x2F then some 63
  else none

def encode : Bytes → Bytes
  | [] => []
  | [a] => [symbol (a.toNat / 4), symbol (a.toNat % 4 * 16), pad, pad]
  | [a, b] =>
    [symbol (a.toNat / 4), symbol (a.toNat % 4 * 16 + b.toNat / 16),
      symbol (b.toNat % 16 * 4), pad]
  | a :: b :: c :: rest =>
    symbol (a.toNat / 4) :: symbol (a.toNat % 4 * 16 + b.toNat / 16) ::
      symbol (b.toNat % 16 * 4 + c.toNat / 64) :: symbol (c.toNat % 64) :: encode rest

def valueAt (offset : Nat) (b : UInt8) : Except Fault Nat :=
  match value? b with
  | some v => .ok v
  | none => .error (.symbol b offset)

-- The values of the last group, which alone may hold padding. `padded` is where padding began.
def lastValues (offset place : Nat) (padded : Option Nat) : Bytes → Except Fault (List Nat × Nat)
  | [] => .ok ([], 0)
  | b :: rest =>
    if b = pad then
      if place < 2 then .error (.symbol b (offset + place))
      else do
        let (values, pads) ← lastValues offset (place + 1) (padded <|> some place) rest
        return (values, pads + 1)
    else
      match padded with
      -- A symbol behind padding: the padding should not have been there.
      | some first => .error (.symbol pad (offset + first))
      | none => do
        let v ← valueAt (offset + place) b
        let (values, pads) ← lastValues offset (place + 1) none rest
        return (v :: values, pads)

-- Ends the text: the values that are there, the padding, and bits that belong to no byte.
def decodeLast (offset : Nat) (group : Bytes) : Except Fault Bytes := do
  let (values, pads) ← lastValues offset 0 none group
  -- With fewer than two symbols there is not even one byte, and the length is to blame.
  if (values.length + pads) % 4 ≠ 0 ∧ 2 ≤ values.length then .error .padding
  match values with
  | [] => if group.isEmpty then return [] else .error (.length offset)
  | [_] => .error (.length (offset + 1))
  | [a, b] =>
    if b % 16 ≠ 0 then .error (.lastSymbol (group.getD 1 0) (offset + 1))
    return [UInt8.ofNat (a * 4 + b / 16)]
  | [a, b, c] =>
    if c % 4 ≠ 0 then .error (.lastSymbol (group.getD 2 0) (offset + 2))
    return [UInt8.ofNat (a * 4 + b / 16), UInt8.ofNat (b % 16 * 16 + c / 4)]
  | a :: b :: c :: d :: _ =>
    return [UInt8.ofNat (a * 4 + b / 16), UInt8.ofNat (b % 16 * 16 + c / 4),
      UInt8.ofNat (c % 4 * 64 + d)]

def decodeFrom (offset : Nat) (read : Bytes) : Bytes → Except Fault Bytes
  | a :: b :: c :: d :: e :: rest => do
    let a ← valueAt offset a
    let b ← valueAt (offset + 1) b
    let c ← valueAt (offset + 2) c
    let d ← valueAt (offset + 3) d
    decodeFrom (offset + 4)
      (UInt8.ofNat (c % 4 * 64 + d) :: UInt8.ofNat (b % 16 * 16 + c / 4) ::
        UInt8.ofNat (a * 4 + b / 16) :: read) (e :: rest)
  | group => return read.reverse ++ (← decodeLast offset group)

-- A symbol that stands alone after the last whole group is looked at before all others.
def decode (text : Bytes) : Except Fault Bytes := do
  if text.length % 4 = 1 then
    let last := text.getLastD pad
    if last ≠ pad ∧ value? last = none then .error (.symbol last (text.length - 1))
  decodeFrom 0 [] text

def text (bytes : Bytes) : String :=
  String.ofList ((encode bytes).map fun b => Char.ofNat b.toNat)

end ArtifactSync.Text.Base64

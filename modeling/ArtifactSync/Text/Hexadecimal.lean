namespace ArtifactSync.Text.Hexadecimal

def value? (c : Char) : Option Nat :=
  if '0' ≤ c ∧ c ≤ '9' then some (c.toNat - '0'.toNat)
  else if 'a' ≤ c ∧ c ≤ 'f' then some (c.toNat - 'a'.toNat + 10)
  else if 'A' ≤ c ∧ c ≤ 'F' then some (c.toNat - 'A'.toNat + 10)
  else none

def byteValue? (b : UInt8) : Option Nat :=
  value? (Char.ofNat b.toNat)

-- The two digits of a number below 256, letters in lower case.
def lowerPair (n : Nat) : List Char :=
  [Nat.digitChar (n / 16), Nat.digitChar (n % 16)]

-- The two digits of a number below 256, letters in upper case.
def upperPair (n : Nat) : List Char :=
  (lowerPair n).map Char.toUpper

end ArtifactSync.Text.Hexadecimal

namespace ArtifactSync.Text.Decimal

inductive Fault
  | empty
  | digit
  | tooLarge
  deriving Repr, DecidableEq

def Fault.message : Fault → String
  | empty => "cannot parse integer from empty string"
  | digit => "invalid digit found in string"
  | tooLarge => "number too large to fit in target type"

def digit? (c : Char) : Option Nat :=
  if '0' ≤ c ∧ c ≤ '9' then some (c.toNat - '0'.toNat) else none

-- Reads digits on from `n`; the number must stay below `bound`.
def digits (bound n : Nat) : List Char → Except Fault Nat
  | [] => .ok n
  | c :: rest =>
    match digit? c with
    | none => .error .digit
    | some d => if n * 10 + d < bound then digits bound (n * 10 + d) rest else .error .tooLarge

-- One plus sign may stand in front, but not alone.
def natural (bound : Nat) : List Char → Except Fault Nat
  | [] => .error .empty
  | '+' :: c :: rest => digits bound 0 (c :: rest)
  | cs => digits bound 0 cs

end ArtifactSync.Text.Decimal

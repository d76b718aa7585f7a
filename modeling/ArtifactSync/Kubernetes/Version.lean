import ArtifactSync.Instances
import ArtifactSync.Text.Decimal

namespace ArtifactSync.Kubernetes

inductive Version
  | stable (major : Nat)
  | beta (major : Nat) (minor : Option Nat)
  | alpha (major : Nat) (minor : Option Nat)
  | other (name : List Char)
  deriving DecidableEq, Repr

namespace Version

def number? (cs : List Char) : Option Nat :=
  (Text.Decimal.natural (2 ^ 32) cs).toOption

-- A number, which may also be left out.
def minor? : List Char → Option (Option Nat)
  | [] => some none
  | cs => (number? cs).map some

def dropWord? (word cs : List Char) : Option (List Char) :=
  if word <+: cs then some (cs.drop word.length) else none

def regular? (cs : List Char) : Option Version := do
  let cs ← dropWord? ['v'] cs
  let digits := cs.takeWhile fun c => (Text.Decimal.digit? c).isSome
  let major ← number? digits
  let rest := cs.drop digits.length
  if rest = [] then return .stable major
  match dropWord? "alpha".toList rest with
  | some minor => return .alpha major (← minor? minor)
  | none => return .beta major (← minor? (← dropWord? "beta".toList rest))

def ofName (name : String) : Version :=
  (regular? name.toList).getD (.other name.toList)

-- Stability first, then the numbers, where a number beats none.
def rank : Version → List Nat
  | stable major => [3, major]
  | beta major minor => [2, major, (minor.map (· + 1)).getD 0]
  | alpha major minor => [1, major, (minor.map (· + 1)).getD 0]
  | other _ => [0]

def outranks (a b : Version) : Bool :=
  match a, b with
  | other a, other b => decide (a < b)
  | a, b => decide (b.rank < a.rank)

end Version

end ArtifactSync.Kubernetes

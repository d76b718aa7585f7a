import ArtifactSync.Instances
import ArtifactSync.Text.Hexadecimal
import ArtifactSync.Text.Split

namespace ArtifactSync.Url.Ipv4

def digit? (radix : Nat) (c : Char) : Option Nat :=
  (Text.Hexadecimal.value? c).filter (· < radix)

def digits? (radix : Nat) (cs : List Char) : Option Nat :=
  cs.foldlM (fun n c => do return n * radix + (← digit? radix c)) 0

def number? : List Char → Option Nat
  | [] => none
  | '0' :: 'x' :: rest | '0' :: 'X' :: rest => digits? 16 rest
  | ['0'] => some 0
  | '0' :: rest => digits? 8 rest
  | cs => digits? 10 cs

-- The parts of a host, without the empty one behind a last dot.
def parts (host : List Char) : List (List Char) :=
  let ps := Text.splitOn '.' host
  if ps.getLast? = some [] && ps.length ≠ 1 then ps.dropLast else ps

-- A host whose last part is a number is an address or nothing.
def endsInNumber (host : List Char) : Bool :=
  match (parts host).getLast? with
  | none => false
  | some last =>
    !last.isEmpty && (last.all (fun c => (digit? 10 c).isSome) || (number? last).isSome)

def address? (host : List Char) : Option Nat := do
  let numbers ← (parts host).mapM number?
  let last ← numbers.getLast?
  let front := numbers.dropLast
  if 4 < numbers.length || front.any (255 < ·) || 256 ^ (4 - front.length) ≤ last then none
  else return front.foldl (fun n m => n * 256 + m) 0 * 256 ^ (4 - front.length) + last

def text (n : Nat) : String :=
  s!"{n / 16777216 % 256}.{n / 65536 % 256}.{n / 256 % 256}.{n % 256}"

end ArtifactSync.Url.Ipv4

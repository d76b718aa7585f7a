import ArtifactSync.Text.Hexadecimal

namespace ArtifactSync.Text

structure Range where
  first : Nat
  last : Nat
  deriving Repr, DecidableEq, Inhabited

namespace Range

-- Finds, in rows sorted by their range, the row whose range holds `n`.
def search {α : Type} (range : α → Range) (rows : Array α) (n : Nat) : Option α :=
  go rows.size 0 rows.size
where
  go : Nat → Nat → Nat → Option α
    | 0, _, _ => none
    | fuel + 1, low, high =>
      if low < high then
        let middle := (low + high) / 2
        match rows[middle]? with
        | none => none
        | some row =>
          if n < (range row).first then go fuel low middle
          else if (range row).last < n then go fuel (middle + 1) high
          else some row
      else none

end Range

-- The numbers of a text: runs of hexadecimal digits, ended by whatever is not one.
def hexNumbers (text : List Char) : List Nat :=
  (go none text []).reverse
where
  go : Option Nat → List Char → List Nat → List Nat
    | none, [], found => found
    | some n, [], found => n :: found
    | current, c :: rest, found =>
      match Hexadecimal.value? c, current with
      | some d, none => go (some d) rest found
      | some d, some n => go (some (16 * n + d)) rest found
      | none, none => go none rest found
      | none, some n => go none rest (n :: found)

-- The words of a table: what stands between blanks and line ends.
def tableWords (text : String) : List (List Char) :=
  text.toList.splitBy fun _ c => c ≠ ' ' && c ≠ '\n'

structure CodePoints where
  ranges : Array Range

namespace CodePoints

-- Reads `41-5A AA B5`: a hyphen joins the ends of a range, anything else separates.
def ofText (text : String) : CodePoints :=
  ⟨(tableWords text).toArray.filterMap fun word =>
    match hexNumbers word with
    | [n] => some ⟨n, n⟩
    | [a, b] => some ⟨a, b⟩
    | _ => none⟩

def contains (s : CodePoints) (n : Nat) : Bool :=
  (Range.search id s.ranges n).isSome

end CodePoints

-- Characters that are all moved by one distance: every `step`-th of a range.
structure Shift where
  range : Range
  step : Nat
  up : Bool
  distance : Nat

namespace Shift

-- Reads `41-5A/1>20`, or `B2<80` for one character.
def ofWord? (word : List Char) : Option Shift :=
  match hexNumbers word with
  | [n, distance] => some ⟨⟨n, n⟩, 1, word.contains '>', distance⟩
  | [first, last, step, distance] => some ⟨⟨first, last⟩, step, word.contains '>', distance⟩
  | _ => none

def table (text : String) : Array Shift :=
  (tableWords text).toArray.filterMap ofWord?

def shifted? (rows : Array Shift) (n : Nat) : Option Nat := do
  let row ← Range.search range rows n
  if (n - row.range.first) % row.step = 0 then
    return if row.up then n + row.distance else n - row.distance
  else none

end Shift

end ArtifactSync.Text

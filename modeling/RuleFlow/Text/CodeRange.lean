/-!
# Sets of code points, and digits

A property of characters is given by the sorted, disjoint, closed ranges of code points that
have it. Decimal digits of every script come in blocks of ten in ascending order, so the zero of
each block determines the value of its members.

* `RuleFlow.Text.CodeRange.mem` looks a code point up by halving the table, so a look-up costs
  a logarithm of the table's size.
* `RuleFlow.Text.CaseRun.shift` looks up a code point in a table of *runs*: evenly spaced code
  points that all map to the code point at one fixed distance.
-/

namespace RuleFlow.Text

/-- A closed range of code points. -/
structure CodeRange where
  /-- The least code point of the range. -/
  first : Nat
  /-- The greatest code point of the range. -/
  last : Nat
deriving DecidableEq, Repr

namespace CodeRange

/-- The halving search below `mem`: is `code` in one of the ranges at the indices from `lo` up
to, but not including, `hi`? The first argument bounds the number of halvings. -/
def memBetween (table : Array CodeRange) (code : Nat) : Nat → Nat → Nat → Bool
  | 0, _, _ => false
  | steps + 1, lo, hi =>
    if hi ≤ lo then false
    else
      let mid := (lo + hi) / 2
      match table[mid]? with
      | none => false
      | some range =>
        if code < range.first then memBetween table code steps lo mid
        else if range.last < code then memBetween table code steps (mid + 1) hi
        else true

/-- **Membership** of a code point in a sorted table of disjoint ranges. -/
def mem (table : Array CodeRange) (code : Nat) : Bool :=
  memBetween table code (table.size + 1) 0 table.size

end CodeRange

/-- Code points `first`, `first + step`, …, `last`, each mapped to the one `offset` away. -/
structure CaseRun where
  /-- The least code point of the run. -/
  first : Nat
  /-- The greatest code point of the run. -/
  last : Nat
  /-- The distance between neighbours of the run. -/
  step : Nat
  /-- The distance from a code point of the run to its image. -/
  offset : Int
deriving DecidableEq, Repr

namespace CaseRun

/-- The halving search below `shift`. -/
def shiftBetween (table : Array CaseRun) (code : Nat) : Nat → Nat → Nat → Nat
  | 0, _, _ => code
  | steps + 1, lo, hi =>
    if hi ≤ lo then code
    else
      let mid := (lo + hi) / 2
      match table[mid]? with
      | none => code
      | some run =>
        if code < run.first then shiftBetween table code steps lo mid
        else if run.last < code then shiftBetween table code steps (mid + 1) hi
        else if (code - run.first) % run.step = 0 then ((code : Int) + run.offset).toNat
        else code

/-- **The image of a code point** under a sorted table of runs; a code point in no run is its
own image. -/
def shift (table : Array CaseRun) (code : Nat) : Nat :=
  shiftBetween table code (table.size + 1) 0 table.size

end CaseRun

/-! ### Digits -/

/-- The code points of the zeros of the blocks of decimal digits. -/
def zeroCodes : Array Nat :=
  #[
    48, 1632, 1776, 1984, 2406, 2534, 2662, 2790, 2918, 3046, 3174, 3302, 3430, 3558, 3664, 3792,
    3872, 4160, 4240, 6112, 6160, 6470, 6608, 6784, 6800, 6992, 7088, 7232, 7248, 42528, 43216,
    43264, 43472, 43504, 43600, 44016, 65296, 66720, 68912, 69734, 69872, 69942, 70096, 70384,
    70736, 70864, 71248, 71360, 71472, 71904, 72016, 72784, 73040, 73120, 92768, 92864, 93008,
    120782, 120792, 120802, 120812, 120822, 123200, 123632, 125264, 130032]

/-- **The value of a decimal digit**, whatever its script. -/
def digitValue? (c : Char) : Option Nat :=
  if c.toNat < 128 then
    if 48 ≤ c.toNat ∧ c.toNat ≤ 57 then some (c.toNat - 48) else none
  else
    (zeroCodes.find? fun z => z ≤ c.toNat && c.toNat < z + 10).map (c.toNat - ·)

/-- The code points of digits that form no decimal numeral. -/
def loneDigitRanges : Array CodeRange :=
  #[
    ⟨178, 179⟩, ⟨185, 185⟩, ⟨4969, 4977⟩, ⟨6618, 6618⟩, ⟨8304, 8304⟩, ⟨8308, 8313⟩, ⟨8320, 8329⟩,
    ⟨9312, 9320⟩, ⟨9332, 9340⟩, ⟨9352, 9360⟩, ⟨9450, 9450⟩, ⟨9461, 9469⟩, ⟨9471, 9471⟩,
    ⟨10102, 10110⟩, ⟨10112, 10120⟩, ⟨10122, 10130⟩, ⟨68160, 68163⟩, ⟨69216, 69224⟩,
    ⟨69714, 69722⟩, ⟨127232, 127242⟩]

/-- **Digits in the wide sense**: decimal digits, and the superscript, subscript and enclosed
digits, which have a value but form no decimal numeral. -/
def isDigitLike (c : Char) : Bool :=
  (digitValue? c).isSome || CodeRange.mem loneDigitRanges c.toNat

/-- A text is a digit string in the wide sense when it is not empty and holds nothing else. -/
def isDigitString (s : String) : Bool :=
  !s.isEmpty && s.toList.all isDigitLike

end RuleFlow.Text

import RuleFlow.Text.CodeRange
import RuleFlow.Text.Search

/-!
# Reading whole numbers

* `RuleFlow.Number.readWhole?` reads a signed whole number with digits of any script and single
  low lines between digits.
* `RuleFlow.Number.numeralDigits` is the number of digits that such a reading comes to, and
  `RuleFlow.Number.mostDigits` a bound that readers may set to it.
-/

namespace RuleFlow.Number

/-- The white space that a text of ASCII characters may have around a number. -/
def isPlainBlank (c : Char) : Bool :=
  c == ' ' || (decide (9 ≤ c.toNat) && decide (c.toNat ≤ 13))

/-- Digits with single low lines between them; the flag tells whether a digit stood just before,
and the number is what has been read so far. -/
def wholeDigits? : Bool → Nat → List Char → Option Nat
  | afterDigit, n, [] => if afterDigit then some n else none
  | afterDigit, n, c :: rest =>
    match Text.digitValue? c with
    | some d => wholeDigits? true (n * 10 + d) rest
    | none => if c = '_' ∧ afterDigit then wholeDigits? false n rest else none

/-- The characters of a number without the white space around it. A text with characters outside
ASCII may have any white space there. -/
def trimNumeral (cs : List Char) : List Char :=
  if cs.all fun c => decide (c.toNat < 128) then
    ((cs.dropWhile isPlainBlank).reverse.dropWhile isPlainBlank).reverse
  else Text.trimChars cs

/-- **Reading a whole number.** -/
def readWhole? (s : String) : Option Int :=
  match trimNumeral s.toList with
  | '-' :: rest => (wholeDigits? false 0 rest).map fun n => -(n : Int)
  | '+' :: rest => (wholeDigits? false 0 rest).map Int.ofNat
  | rest => (wholeDigits? false 0 rest).map Int.ofNat

/-! ### Numbers of digits -/

/-- The number of digits up to which whole numbers are read. -/
def mostDigits : Nat := 4300

/-- The number of digits that a text starts with, single low lines between them; the flag tells
whether a digit stood just before, and the number is that of the digits so far. A low line that
stands elsewhere leaves none. -/
def leadingDigits : Bool → Nat → List Char → Nat
  | afterDigit, n, [] => if afterDigit then n else 0
  | afterDigit, n, c :: rest =>
    match Text.digitValue? c with
    | some _ => leadingDigits true (n + 1) rest
    | none =>
      if !afterDigit then 0
      else if c = '_' then leadingDigits false n rest
      else n

/-- **The number of digits** of the number that a text starts with, whatever follows them. -/
def numeralDigits (s : String) : Nat :=
  match trimNumeral s.toList with
  | '-' :: rest | '+' :: rest => leadingDigits false 0 rest
  | rest => leadingDigits false 0 rest

end RuleFlow.Number

import RuleFlow.Text.Printable

/-!
# Quoted text

The quoted form in which texts stand inside messages and emitted source. Single quotes are
preferred; double quotes are used for a text that holds single quotes and no double ones.

* `RuleFlow.Text.quoteMark`: the choice of the quotes.
* `RuleFlow.Text.escapeChar`: the form of one character between them.
* `RuleFlow.Text.quote`: the whole.
* `RuleFlow.Text.unquote`: the characters that stand between quotes, read back.
-/

namespace RuleFlow.Text

/-- A number below sixteen as a lower-case hexadecimal digit. -/
def hexDigit (n : Nat) : Char :=
  if n < 10 then Char.ofNat (48 + n) else Char.ofNat (87 + n)

/-- The last `width` hexadecimal digits of a number. -/
def hexDigits : Nat → Nat → List Char
  | 0, _ => []
  | width + 1, n => hexDigits width (n / 16) ++ [hexDigit (n % 16)]

/-- **The choice of the quotes**: double ones around a text that holds a single quote and no
double one. -/
def quoteMark (cs : List Char) : Char :=
  if cs.contains '\'' && !cs.contains '"' then '"' else '\''

/-- A character by its code point: two digits after `x`, four after `u` or eight after `U`. -/
def codeEscape (c : Char) : List Char :=
  if c.toNat < 256 then '\\' :: 'x' :: hexDigits 2 c.toNat
  else if c.toNat < 65536 then '\\' :: 'u' :: hexDigits 4 c.toNat
  else '\\' :: 'U' :: hexDigits 8 c.toNat

/-- **The form of one character between quotes.** The quote in use and the backslash are marked
by a backslash, and what is not printable is written by its code point. -/
def escapeChar (mark c : Char) : List Char :=
  if c = mark ∨ c = '\\' then ['\\', c]
  else if c = '\t' then ['\\', 't']
  else if c = '\n' then ['\\', 'n']
  else if c = '\r' then ['\\', 'r']
  else if isPrintable c then [c]
  else codeEscape c

/-- The quoted form of a sequence of characters. -/
def quoteChars (cs : List Char) : List Char :=
  let mark := quoteMark cs
  mark :: cs.flatMap (escapeChar mark) ++ [mark]

/-- **The quoted form** of a text. -/
def quote (s : String) : String :=
  String.ofList (quoteChars s.toList)

/-! ### Reading -/

/-- The value of a hexadecimal digit. -/
def hexValue? (c : Char) : Option Nat :=
  if '0' ≤ c ∧ c ≤ '9' then some (c.toNat - 48)
  else if 'a' ≤ c ∧ c ≤ 'f' then some (c.toNat - 87)
  else if 'A' ≤ c ∧ c ≤ 'F' then some (c.toNat - 55)
  else none

/-- The characters with a short form between quotes, each with its letter. -/
def shortForms (mark : Char) : List (Char × Char) :=
  [(mark, mark), ('\\', '\\'), ('\t', 't'), ('\n', 'n'), ('\r', 'r')]

/-- The letters of code points, each with the width of the code point. -/
def codeForms : List (Char × Nat) :=
  [('x', 2), ('u', 4), ('U', 8)]

/-- **Where a reader stands** between quotes. -/
inductive Inside where
  /-- Before a character. -/
  | plain
  /-- Behind a backslash. -/
  | slash
  /-- Before a digit of a code point, with so many digits behind it; the number is that of the
  digits before it. -/
  | code (left value : Nat)

/-- **The characters up to the closing quote**, and the text behind it. -/
def unquote (mark : Char) : Inside → List Char → Option (List Char × List Char)
  | _, [] => none
  | .plain, c :: cs =>
    if c = mark then some ([], cs)
    else if c = '\\' then unquote mark .slash cs
    else (unquote mark .plain cs).map fun (chars, rest) => (c :: chars, rest)
  | .slash, c :: cs =>
    match (shortForms mark).find? (·.2 == c), codeForms.lookup c with
    | some (d, _), _ => (unquote mark .plain cs).map fun (chars, rest) => (d :: chars, rest)
    | none, some width => unquote mark (.code (width - 1) 0) cs
    | none, none => none
  | .code left value, c :: cs =>
    match hexValue? c, left with
    | none, _ => none
    | some digit, left + 1 => unquote mark (.code left (value * 16 + digit)) cs
    | some digit, 0 =>
      let n := value * 16 + digit
      if n.isValidChar then
        (unquote mark .plain cs).map fun (chars, rest) => (Char.ofNat n :: chars, rest)
      else none

end RuleFlow.Text

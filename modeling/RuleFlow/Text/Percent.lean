import RuleFlow.Text.Utf8

/-!
# Percent encoding

Texts in addresses are written in a few characters that have no meaning there. Every other octet
is written by a percent sign and its two hexadecimal digits.

* `RuleFlow.Text.Percent.decode` reads such a text; a percent sign without two digits stands for
  itself.
* `RuleFlow.Text.Percent.encodeForm` writes a text for a query, where a plus sign stands for a
  blank.
* `RuleFlow.Text.Percent.readQuery` and `RuleFlow.Text.Percent.writeQuery` read and write the pairs
  of a query.
-/

namespace RuleFlow.Text.Percent

/-- The value of a hexadecimal digit. -/
def digit? (c : Char) : Option Nat :=
  if c.isDigit then some (c.toNat - 48)
  else if 'a' ≤ c ∧ c ≤ 'f' then some (c.toNat - 87)
  else if 'A' ≤ c ∧ c ≤ 'F' then some (c.toNat - 55)
  else none

/-- The octet of two hexadecimal digits. -/
def octet? (high low : Char) : Option Nat :=
  match digit? high, digit? low with
  | some h, some l => some (h * 16 + l)
  | _, _ => none

/-- The octets that characters stand for. -/
def octets : List Char → List Nat
  | '%' :: high :: low :: rest =>
    match octet? high low with
    | some octet => octet :: octets rest
    | none => Utf8.encodeChar '%' ++ octets (high :: low :: rest)
  | c :: rest => Utf8.encodeChar c ++ octets rest
  | [] => []

/-- **Reading a text.** -/
def decode (s : String) : String :=
  String.ofList (Utf8.decode (octets s.toList))

/-! ### Queries -/

/-- Whether an octet is written as it is. -/
def isPlain (octet : Nat) : Bool :=
  octet < 0x80 && ((Char.ofNat octet).isAlphanum || "_.-~".toList.contains (Char.ofNat octet))

/-- A hexadecimal digit. -/
def digitChar (n : Nat) : Char :=
  if n < 10 then Char.ofNat (48 + n) else Char.ofNat (55 + n)

/-- The form of an octet in a query. -/
def formOctet (octet : Nat) : List Char :=
  if isPlain octet then [Char.ofNat octet]
  else if octet = 0x20 then ['+']
  else ['%', digitChar (octet / 16), digitChar (octet % 16)]

/-- **Writing a text for a query.** -/
def encodeForm (s : String) : String :=
  String.ofList ((Utf8.encode s.toList).flatMap formOctet)

/-- Characters from a query, with blanks for plus signs, read. -/
def decodeForm (cs : List Char) : String :=
  decode (String.ofList (cs.map fun c => if c = '+' then ' ' else c))

/-- The pieces between the occurrences of a character. -/
def pieces (separator : Char) : List Char → List (List Char)
  | [] => [[]]
  | c :: rest =>
    if c = separator then [] :: pieces separator rest
    else
      match pieces separator rest with
      | [] => [[c]]
      | piece :: more => (c :: piece) :: more

/-- **Reading the pairs of a query.** -/
def readQuery (s : String) : List (String × String) :=
  ((pieces '&' s.toList).filter fun piece => !piece.isEmpty).map fun piece =>
    (decodeForm (piece.takeWhile (· ≠ '=')), decodeForm ((piece.dropWhile (· ≠ '=')).drop 1))

/-- **Writing the pairs of a query.** -/
def writeQuery (pairs : List (String × String)) : String :=
  "&".intercalate (pairs.map fun (key, s) => encodeForm key ++ "=" ++ encodeForm s)

end RuleFlow.Text.Percent

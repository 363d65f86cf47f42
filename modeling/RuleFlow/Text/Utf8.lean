/-!
# UTF-8

The octets of characters, and the characters of octets.

* `RuleFlow.Text.Utf8.encode` gives the octets of characters.
* `RuleFlow.Text.Utf8.decode` reads any octets. What is no part of a character is replaced: each
  longest start of a character that breaks off, and each octet that starts none, by one mark.
-/

namespace RuleFlow.Text.Utf8

/-! ### Octets of characters -/

/-- The octet that continues a character with the last six bits of a number. -/
def continuation (n : Nat) : Nat :=
  0x80 + n % 64

/-- **The octets of a character.** -/
def encodeChar (c : Char) : List Nat :=
  let n := c.toNat
  if n < 0x80 then [n]
  else if n < 0x800 then [0xC0 + n / 64, continuation n]
  else if n < 0x10000 then [0xE0 + n / 4096, continuation (n / 64), continuation n]
  else [0xF0 + n / 262144, continuation (n / 4096), continuation (n / 64), continuation n]

/-- The octets of characters. -/
def encode (cs : List Char) : List Nat :=
  cs.flatMap encodeChar

/-- The number of octets of a character. -/
def width (c : Char) : Nat :=
  let n := c.toNat
  if n < 0x80 then 1 else if n < 0x800 then 2 else if n < 0x10000 then 3 else 4

/-- **The number of octets** of characters. -/
def size (cs : List Char) : Nat :=
  cs.foldl (fun total c => total + width c) 0

/-! ### Characters of octets -/

/-- The mark for what cannot be read. -/
def replacement : Char := '\uFFFD'

/-- **A character of which a start has been read**: how many octets are to come, between which
bounds the next one lies, and the bits so far. -/
structure Opening where
  /-- The number of octets to come. -/
  owed : Nat
  /-- The least next octet. -/
  least : Nat
  /-- The greatest next octet. -/
  greatest : Nat
  /-- The bits so far. -/
  bits : Nat

/-- What an octet between characters comes to: characters, and the start of another. The bounds of
the next octet leave out long forms, halves of pairs and what is beyond the last character. -/
def start (octet : Nat) : List Char × Option Opening :=
  if octet < 0x80 then ([Char.ofNat octet], none)
  else if octet < 0xC2 then ([replacement], none)
  else if octet < 0xE0 then ([], some ⟨1, 0x80, 0xBF, octet - 0xC0⟩)
  else if octet < 0xF0 then
    ([], some ⟨2, if octet = 0xE0 then 0xA0 else 0x80, if octet = 0xED then 0x9F else 0xBF,
      octet - 0xE0⟩)
  else if octet < 0xF5 then
    ([], some ⟨3, if octet = 0xF0 then 0x90 else 0x80, if octet = 0xF4 then 0x8F else 0xBF,
      octet - 0xF0⟩)
  else ([replacement], none)

/-- What an octet after the start of a character comes to. -/
def step (p : Opening) (octet : Nat) : List Char × Option Opening :=
  if p.least ≤ octet ∧ octet ≤ p.greatest then
    let bits := p.bits * 64 + (octet - 0x80)
    if p.owed ≤ 1 then ([Char.ofNat bits], none)
    else ([], some ⟨p.owed - 1, 0x80, 0xBF, bits⟩)
  else
    let (chars, next) := start octet
    (replacement :: chars, next)

/-- The characters of octets after the start of a character, if there is one. -/
def decodeFrom : Option Opening → List Nat → List Char
  | none, [] => []
  | some _, [] => [replacement]
  | before, octet :: rest =>
    let (chars, next) :=
      match before with
      | none => start octet
      | some p => step p octet
    chars ++ decodeFrom next rest

/-- **The characters of octets.** -/
def decode (octets : List Nat) : List Char :=
  decodeFrom none octets

end RuleFlow.Text.Utf8

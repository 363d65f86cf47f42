import RuleFlow.Text.CaseTable

/-!
# Case conversion

Conversion of a text to upper or lower case. Both work character by character, with one
exception: a capital sigma becomes the final small sigma at the end of a word.

* `RuleFlow.Text.upper`, `RuleFlow.Text.lower`: the conversions.
* `RuleFlow.Text.isFinalSigma`: when a sigma ends a word.
* `RuleFlow.Text.isCased`: the characters that either conversion changes.
* `RuleFlow.Text.foldClass`: the code points that match a lower-case character without regard to
  case. Two characters match so if they have the same lower-case form, or lower-case forms with the
  same upper-case form.
-/

namespace RuleFlow.Text

/-! ### Single characters -/

/-- The upper-case form of a character, of one or more characters. -/
def upperChar (c : Char) : List Char :=
  match upperExpansions.find? (·.1 == c.toNat) with
  | some (_, codes) => codes.map Char.ofNat
  | none => [Char.ofNat (CaseRun.shift upperRuns c.toNat)]

/-- The lower-case form of a character outside any context; only the dotted capital I has two
characters in it. -/
def lowerChar (c : Char) : List Char :=
  if c.toNat = 304 then [Char.ofNat 105, Char.ofNat 775]
  else [Char.ofNat (CaseRun.shift lowerRuns c.toNat)]

/-- The first character of the lower-case form, which stands for the character where one
character has to. -/
def foldChar (c : Char) : Char :=
  (lowerChar c).headD c

/-- **Cased characters**: those that a conversion to upper or to lower case changes. -/
def isCased (c : Char) : Bool :=
  foldChar c != c || (upperChar c).headD c != c

/-! ### The two small sigmas -/

/-- The nearest character that is not case-ignorable, if it is cased. -/
def reachesCased (cs : List Char) : Bool :=
  match cs.dropWhile fun c => CodeRange.mem caseIgnorableRanges c.toNat with
  | [] => false
  | c :: _ => CodeRange.mem casedRanges c.toNat

/-- **A sigma ends its word** when a cased character stands before it and none after it, the
case-ignorable characters between them aside. The text before it is given backwards. -/
def isFinalSigma (before after : List Char) : Bool :=
  reachesCased before && !reachesCased after

/-! ### Texts -/

/-- The upper-case form of a sequence of characters. -/
def upperChars (cs : List Char) : List Char :=
  cs.flatMap upperChar

/-- The lower-case form of a sequence of characters that follows `before`, given backwards. -/
def lowerCharsAfter (before : List Char) : List Char → List Char
  | [] => []
  | c :: rest =>
    (if c.toNat = 931 then
      [Char.ofNat (if isFinalSigma before rest then 962 else 963)]
    else lowerChar c) ++ lowerCharsAfter (c :: before) rest

/-- The lower-case form of a sequence of characters. -/
def lowerChars (cs : List Char) : List Char :=
  lowerCharsAfter [] cs

/-- **Upper case.** -/
def upper (s : String) : String :=
  String.ofList (upperChars s.toList)

/-- **Lower case.** -/
def lower (s : String) : String :=
  String.ofList (lowerChars s.toList)

/-- **Capitalisation**: the first character in upper case and the rest in lower case. The rest
is a text of its own, so the first character is no context for a sigma in it. -/
def capitalize (s : String) : String :=
  match s.toList with
  | [] => ""
  | c :: rest => String.ofList (upperChar c ++ lowerChars rest)

/-! ### Matching without regard to case -/

/-- The lower-case characters that share their upper-case form with others, and those others. -/
def sharedUpper : List (Nat × List Nat) :=
  [
    (105, [305]), (115, [383]), (181, [956]), (305, [105]), (383, [115]), (837, [953, 8126]),
    (912, [8147]), (944, [8163]), (946, [976]), (949, [1013]), (952, [977]), (953, [837, 8126]),
    (954, [1008]), (956, [181]), (960, [982]), (961, [1009]), (962, [963]), (963, [962]),
    (966, [981]), (976, [946]), (977, [952]), (981, [966]), (982, [960]), (1008, [954]),
    (1009, [961]), (1013, [949]), (1074, [7296]), (1076, [7297]), (1086, [7298]), (1089, [7299]),
    (1090, [7300, 7301]), (1098, [7302]), (1123, [7303]), (7296, [1074]), (7297, [1076]),
    (7298, [1086]), (7299, [1089]), (7300, [1090, 7301]), (7301, [1090, 7300]), (7302, [1098]),
    (7303, [1123]), (7304, [42571]), (7777, [7835]), (7835, [7777]), (8126, [837, 953]),
    (8147, [912]), (8163, [944]), (42571, [7304]), (64261, [64262]), (64262, [64261])]

/-- A code point in lower case; outside `wide` classes only ASCII letters have one. -/
def foldCode (wide : Bool) (code : Nat) : Nat :=
  if wide then
    if code = 304 then 105 else CaseRun.shift lowerRuns code
  else if 65 ≤ code ∧ code ≤ 90 then code + 32
  else code

/-- Whether a code point has letters of another case. -/
def isCasedCode (wide : Bool) (code : Nat) : Bool :=
  if wide then isCased (Char.ofNat code)
  else (decide (65 ≤ code) && decide (code ≤ 90)) || (decide (97 ≤ code) && decide (code ≤ 122))

/-- The code points with a given lower-case form. -/
def preimages (wide : Bool) (code : Nat) : List Nat :=
  let self := if foldCode wide code = code then [code] else []
  if wide then
    self ++ (if code = 105 then [304] else []) ++
      lowerRuns.toList.filterMap fun run =>
        let source := ((code : Int) - run.offset).toNat
        if run.first ≤ source ∧ source ≤ run.last ∧ (source - run.first) % run.step = 0 then
          some source
        else none
  else if 97 ≤ code ∧ code ≤ 122 then self ++ [code - 32]
  else self

/-- **The code points that match a lower-case character** without regard to case. -/
def foldClass (wide : Bool) (code : Nat) : List Nat :=
  let shared := if wide then (sharedUpper.filter (·.2.contains code)).map (·.1) else []
  (code :: shared).flatMap (preimages wide)

end RuleFlow.Text

import RuleFlow.Builtin.Answer
import RuleFlow.Pattern.Matcher
import RuleFlow.Text.Case
import RuleFlow.Text.Search
import RuleFlow.Value.Whole

/-!
# Functions on texts

Positions and lengths count characters. A pattern is read each time, and a refused one is a fault.

* `RuleFlow.OnText.findReplace`, `split`, `indexOf`, `contains` share one search for a fixed text.
* `RuleFlow.OnText.substring` cuts a piece out, `padLeft` and `padRight` fill up to a length.
* `RuleFlow.OnText.matchesPattern` and `replacePattern` search for a pattern.
-/

namespace RuleFlow.OnText

open Number Answer

/-! ### Searching for a fixed text -/

/-- The pieces of a text between the occurrences of a separator. The empty separator stands between
any two characters. -/
def pieces (separator text : List Char) : List (List Char) :=
  if separator.isEmpty then text.map ([·]) else Text.splitOn separator text

/-- **Replacing** every occurrence of a text. -/
def findReplace (text find replacement : Value) : Answer :=
  withText "text" text fun text =>
  withText "find" find fun find =>
  withText "replaceWith" replacement fun replacement =>
  Answer.text (replacement.intercalate (pieces find text))

/-- **Splitting** at every occurrence of a separator. -/
def split (text separator : Value) : Answer :=
  withText "text" text fun text =>
  withText "separator" separator fun separator =>
  Answer.value (.list ((pieces separator text).map fun piece => .text (String.ofList piece)))

/-- **The place of the first occurrence**, or minus one. -/
def indexOf (text search : Value) : Answer :=
  withText "text" text fun text =>
  withText "searchValue" search fun search =>
  Answer.whole ((Text.indexOf? search text).elim (-1) Int.ofNat)

/-- **Occurrence** of a text. -/
def contains (text pattern : Value) : Answer :=
  withText "text" text fun text =>
  withText "pattern" pattern fun pattern =>
  Answer.bool (Text.occursIn pattern text)

/-- Occurrence at the start. -/
def startsWith (text start : Value) : Answer :=
  withText "text" text fun text =>
  withText "prefix" start fun start =>
  Answer.bool (start.isPrefixOf text)

/-- Occurrence at the end. -/
def endsWith (text ending : Value) : Answer :=
  withText "text" text fun text =>
  withText "suffix" ending fun ending =>
  Answer.bool (ending.isSuffixOf text)

/-! ### Cutting and filling -/

/-- The piece of a text between two positions, which may be given in either order. -/
def slice (text : List Char) (first second : Nat) : List Char :=
  (text.drop (min first second)).take (max first second - min first second)

/-- **The piece of a text** of a length from a start on. Without a start, or with one that is zero
of any kind, it starts at the first character. -/
def substring (text length start : Value) : Answer :=
  withText "inputText" text fun text =>
  withNumber "length" length <|
  if start.isNull || start.isNumber then do
    let start := start.orElse (.int 0)
    if ← Value.less (.int text.length) start then refuse "Start index greater than string length"
    else
      let first ← start.toWhole
      let second ← (← start.plus length).toWhole
      Answer.text (slice text first.toNat second.toNat)
  else wrongKind "start" "Number"

/-- The greatest number that a text can be repeated with, and the greatest length of a text. -/
def countLimit : Int := 9223372036854775807

/-- **Repetition.** A negative number of times is none. Each character takes at least one byte. -/
def repeatChars (text : List Char) (count : Int) : Except Fault (List Char) :=
  if countLimit < count ∨ count < -countLimit - 1 then .error .countTooLong
  else if text.isEmpty ∨ count ≤ 0 then .ok []
  else if countLimit / count < text.length then .error .repeatTooLong
  else if addressSpace < text.length * count then .error .outOfMemory
  else .ok (List.replicate count.toNat text).flatten

/-- What is missing from a text up to a length, filled with a text over and over; nothing is missing
if there is nothing to fill with. -/
def padding (text fill : List Char) (length : Int) : Except Fault (List Char) :=
  let missing := length - text.length
  if missing ≤ 0 ∨ fill.isEmpty then .ok []
  else (repeatChars fill (missing / fill.length + 1)).map (·.take missing.toNat)

/-- Filling a text up to a length, by a way of joining the filling and the text. -/
def padded (join : List Char → List Char → List Char) (text length fill : Value) : Answer :=
  withText "text" text fun text =>
  withNumber "length" length <|
  withText "char" fill fun fill => do
    let length ← length.toWhole
    Answer.text (join (← padding text fill length) text)

/-- **Filling up on the left.** -/
def padLeft (text length fill : Value) : Answer :=
  padded (fun filling text => filling ++ text) text length fill

/-- **Filling up on the right.** -/
def padRight (text length fill : Value) : Answer :=
  padded (fun filling text => text ++ filling) text length fill

/-- **Repetition.** A negative number of times is a fault. -/
def repeatText (text count : Value) : Answer :=
  withText "text" text fun text =>
  withNumber "count" count do
    if ← count.less (.int 0) then .error (.negativeCount count)
    else Answer.text (← repeatChars text (← count.toWhole))

/-- **Joining** two texts, or three. -/
def concat (first second third : Value) : Answer :=
  withText "str1" first fun first =>
  withText "str2" second fun second =>
  if third.isNull then Answer.text (first ++ second)
  else withText "str3" third fun third => Answer.text (first ++ second ++ third)

/-! ### One text -/

/-- The function that changes a text. -/
def changing (change : List Char → List Char) (text : Value) : Answer :=
  withText "text" text fun text => Answer.text (change text)

/-- **Upper case.** -/
def upper : Value → Answer :=
  changing Text.upperChars

/-- **Lower case.** -/
def lower : Value → Answer :=
  changing Text.lowerChars

/-- **A text without white space at its ends.** -/
def trim : Value → Answer :=
  changing Text.trimChars

/-- **A text backwards.** -/
def reverse : Value → Answer :=
  changing List.reverse

/-- **A text without white space.** -/
def removeSpaces : Value → Answer :=
  changing (List.filter fun c => !Text.isBlank c)

/-- **The first character in upper case** and the rest in lower case. -/
def capitalize (text : Value) : Answer :=
  withText "text" text fun text =>
  Answer.value (.text (Text.capitalize (String.ofList text)))

/-- **The number of characters.** -/
def length (text : Value) : Answer :=
  withText "text" text fun text => Answer.whole text.length

/-! ### Patterns -/

/-- Going on with a pattern. -/
def withPattern (source : List Char) (next : Pattern → Answer) : Answer :=
  match Pattern.read source with
  | .ok p => next p
  | .error e => .error (.pattern source e)

/-- **Replacing** every match of a pattern by a text, taken as it is. -/
def replacePattern (text pattern replacement : Value) : Answer :=
  withText "text" text fun text =>
  withText "pattern" pattern fun pattern =>
  withText "replaceWith" replacement fun replacement =>
  withPattern pattern fun p => Answer.text (p.replaceAll replacement text)

/-- **Whether a pattern matches** anywhere. -/
def matchesPattern (text pattern : Value) : Answer :=
  withText "text" text fun text =>
  withText "pattern" pattern fun pattern =>
  withPattern pattern fun p => Answer.bool (p.occurs text)

end RuleFlow.OnText

import RuleFlow.Text.CodeRange

/-!
# Trimming and searching

White space is removed from the ends of a text, and a text is searched for a fixed one. The
characters that count as white space are those with the bidirectional class of a separator or white
space, and all space separators.

* `RuleFlow.Text.isBlank`: white space.
* `RuleFlow.Text.trim`: a text without white space at its ends.
* `RuleFlow.Text.indexOf?`: where the first occurrence starts.
* `RuleFlow.Text.occursIn`: whether there is one.
* `RuleFlow.Text.splitOn`: the pieces between the occurrences, taken from the left without
  overlap.
-/

namespace RuleFlow.Text

/-! ### White space -/

/-- The code points of white space. -/
def blankRanges : Array CodeRange :=
  #[
    ⟨9, 13⟩, ⟨28, 32⟩, ⟨133, 133⟩, ⟨160, 160⟩, ⟨5760, 5760⟩, ⟨8192, 8202⟩, ⟨8232, 8233⟩,
    ⟨8239, 8239⟩, ⟨8287, 8287⟩, ⟨12288, 12288⟩]

/-- **White space**: tabs, line and paragraph breaks, the four information separators and every
space separator. -/
def isBlank (c : Char) : Bool :=
  CodeRange.mem blankRanges c.toNat

/-- The characters left once white space is gone from both ends. -/
def trimChars (cs : List Char) : List Char :=
  (((cs.dropWhile isBlank).reverse).dropWhile isBlank).reverse

/-- **Trimming**: the text without the white space at its ends. -/
def trim (s : String) : String :=
  String.ofList (trimChars s.toList)

/-! ### Searching -/

/-- **The first occurrence** of `pattern`, as the number of characters before it. -/
def indexOf? (pattern : List Char) : List Char → Option Nat
  | [] => if pattern.isEmpty then some 0 else none
  | c :: rest =>
    if pattern.isPrefixOf (c :: rest) then some 0
    else (indexOf? pattern rest).map (· + 1)

/-- **Occurrence** of `pattern` anywhere in a text. -/
def occursIn (pattern text : List Char) : Bool :=
  (indexOf? pattern text).isSome

/-- The loop below `splitOn`: `skip` characters still belong to the separator just found, and
`piece` holds the current piece backwards. -/
def splitLoop (separator : List Char) : Nat → List Char → List Char → List (List Char)
  | _, piece, [] => [piece.reverse]
  | skip + 1, piece, _ :: rest => splitLoop separator skip piece rest
  | 0, piece, c :: rest =>
    if separator.isPrefixOf (c :: rest) then
      piece.reverse :: splitLoop separator (separator.length - 1) [] rest
    else splitLoop separator 0 (c :: piece) rest

/-- **Splitting** at the occurrences of a separator that is not empty. There is one piece more
than there are occurrences. -/
def splitOn (separator text : List Char) : List (List Char) :=
  splitLoop separator 0 [] text

end RuleFlow.Text

/-!
# Search patterns

The structure of a search pattern: a sequence of nodes, each of which matches a part of a text or
a place between its characters.

* `RuleFlow.Pattern.Node` is one element of a pattern.
* `RuleFlow.Pattern.Flags` are the switches under which a part of a pattern is read and matched.
* `RuleFlow.Pattern.width` bounds the number of characters that a sequence of nodes matches.
-/

namespace RuleFlow.Pattern

/-- The switches of a pattern, or of a part of it. -/
structure Flags where
  /-- Letters match without regard to case. -/
  ignoreCase : Bool := false
  /-- The anchors for line ends match at every line. -/
  multiline : Bool := false
  /-- The point matches line feeds too. -/
  dotAll : Bool := false
  /-- White space and comments in the pattern are skipped. -/
  verbose : Bool := false
  /-- Character classes hold ASCII characters only. -/
  ascii : Bool := false
  /-- Character classes hold characters of every script. -/
  wide : Bool := false
  /-- An obsolete switch without effect. -/
  template : Bool := false
deriving DecidableEq, Repr

namespace Flags

/-- The switches that are on in either. -/
def union (f g : Flags) : Flags :=
  { ignoreCase := f.ignoreCase || g.ignoreCase, multiline := f.multiline || g.multiline,
    dotAll := f.dotAll || g.dotAll, verbose := f.verbose || g.verbose,
    ascii := f.ascii || g.ascii, wide := f.wide || g.wide, template := f.template || g.template }

/-- The switches that are on in both. -/
def inter (f g : Flags) : Flags :=
  { ignoreCase := f.ignoreCase && g.ignoreCase, multiline := f.multiline && g.multiline,
    dotAll := f.dotAll && g.dotAll, verbose := f.verbose && g.verbose,
    ascii := f.ascii && g.ascii, wide := f.wide && g.wide, template := f.template && g.template }

/-- The switches of the first that are off in the second. -/
def diff (f g : Flags) : Flags :=
  { ignoreCase := f.ignoreCase && !g.ignoreCase, multiline := f.multiline && !g.multiline,
    dotAll := f.dotAll && !g.dotAll, verbose := f.verbose && !g.verbose,
    ascii := f.ascii && !g.ascii, wide := f.wide && !g.wide,
    template := f.template && !g.template }

/-- The switches inside a group that turns some on and some off. The choice of the character
classes replaces the one outside. -/
def within (outer add del : Flags) : Flags :=
  let base := if add.ascii || add.wide then { outer with ascii := false, wide := false } else outer
  (base.union add).diff del

end Flags

/-- The classes of characters that have a name. -/
inductive Category where
  /-- Decimal digits. -/
  | digit
  /-- White space. -/
  | blank
  /-- Word characters. -/
  | word
deriving DecidableEq, Repr

/-- One item of a set of characters. -/
inductive SetItem where
  /-- The code points from the first to the last. -/
  | range (first last : Nat)
  /-- The characters in a class, or those outside it. -/
  | named (inside : Bool) (category : Category)
deriving DecidableEq, Repr

/-- A place between characters. -/
inductive Anchor where
  /-- The start of the text, or of a line. -/
  | lineStart
  /-- The end of the text, the place before a final line feed, or the end of a line. -/
  | lineEnd
  /-- The start of the text. -/
  | textStart
  /-- The end of the text. -/
  | textEnd
  /-- A place with a word character on one side only. -/
  | wordEdge
  /-- A place with word characters on both sides or on none. -/
  | noWordEdge
deriving DecidableEq, Repr

/-- How a repetition chooses the number of its rounds. -/
inductive Greed where
  /-- As many as possible, giving back where the rest does not match. -/
  | greedy
  /-- As few as possible, taking more where the rest does not match. -/
  | lazy
  /-- As many as possible, giving nothing back. -/
  | possessive
deriving DecidableEq, Repr

/-- **One element of a pattern.** -/
inductive Node where
  /-- A single character in, or outside, a set. -/
  | set (negated : Bool) (items : List SetItem)
  /-- Any character, except for line feeds where they are not admitted. -/
  | any
  /-- A place between characters. -/
  | anchor (anchor : Anchor)
  /-- The text that a group has matched. -/
  | backref (group : Nat)
  /-- One of several sequences, tried in order. -/
  | branch (alternatives : List (List Node))
  /-- A sequence under switches of its own, whose text may be kept under a number. -/
  | group (index : Option Nat) (add del : Flags) (body : List Node)
  /-- A sequence that is not entered again once it has matched. -/
  | atomic (body : List Node)
  /-- A sequence matched `least` to `most` times in a row. -/
  | loop (greed : Greed) (least : Nat) (most : Option Nat) (body : List Node)
  /-- A place after or before which a sequence matches, or does not. -/
  | look (ahead negative : Bool) (body : List Node)
  /-- One of two sequences, chosen by whether a group has matched. -/
  | conditional (group : Nat) (yes no : List Node) (hasNo : Bool)
deriving Repr

/-! ### Widths -/

/-- A width beyond every text. -/
def maxWidth : Nat := 18446744073709551616

/-- The most rounds that a repetition without a bound counts as. -/
def unboundedRounds : Nat := 4294967295

mutual

/-- The least and the greatest number of characters that a node matches, given the widths of the
groups closed before it. -/
def Node.width (groups : Nat → Nat × Nat) : Node → Nat × Nat
  | .set .. => (1, 1)
  | .any => (1, 1)
  | .anchor _ => (0, 0)
  | .backref g => groups g
  | .branch alternatives => widthBranch groups alternatives
  | .group _ _ _ body => width groups body
  | .atomic body => width groups body
  | .loop _ least most body =>
    let (lo, hi) := width groups body
    (lo * least,
      match most with
      | none => if hi = 0 then 0 else maxWidth
      | some most => hi * most)
  | .look .. => (0, 0)
  | .conditional _ yes no hasNo =>
    let (lo, hi) := width groups yes
    let (lo', hi') := width groups no
    (if hasNo then min lo lo' else 0, if hasNo then max hi hi' else hi)

/-- **The least and the greatest number of characters** that a sequence matches. -/
def width (groups : Nat → Nat × Nat) : List Node → Nat × Nat
  | [] => (0, 0)
  | node :: rest =>
    let (lo, hi) := node.width groups
    let (lo', hi') := width groups rest
    (min (lo + lo') maxWidth, min (hi + hi') maxWidth)

/-- The widths of a choice: the least of the least and the greatest of the greatest. -/
def widthBranch (groups : Nat → Nat × Nat) : List (List Node) → Nat × Nat
  | [] => (maxWidth, 0)
  | body :: rest =>
    let (lo, hi) := width groups body
    let (lo', hi') := widthBranch groups rest
    (min lo lo', max hi hi')

end

end RuleFlow.Pattern

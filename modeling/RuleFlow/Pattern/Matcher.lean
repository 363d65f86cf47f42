import RuleFlow.Pattern.Reader
import RuleFlow.Text.Case
import RuleFlow.Text.Search

/-!
# Matching

A sequence of nodes is matched from a place in a text on, and what is to be matched after it is
passed along: a node that can match in several ways tries them in order until the rest matches
too.

* `RuleFlow.Pattern.run` matches a sequence.
* `RuleFlow.Pattern.weight` bounds the number of nodes on the way through a match, which bounds
  the depth of the search.
* `RuleFlow.Pattern.matchAt` matches a whole pattern at one place.
-/

namespace RuleFlow.Pattern

/-! ### Single characters -/

/-- Whether a character is in a named class. -/
def Category.holds (ascii : Bool) (category : Category) (c : Char) : Bool :=
  match category with
  | .digit => if ascii then c.isDigit else (Text.digitValue? c).isSome
  | .blank => if ascii then isSkipped c else Text.isBlank c
  | .word => if ascii then c.isAlphanum || c == '_' else Text.isWordChar c

/-- Whether an item holds one of some code points, or a class holds a character. -/
def SetItem.holds (ascii : Bool) (codes : List Nat) (c : Char) : SetItem → Bool
  | .range lo hi => codes.any fun n => decide (lo ≤ n) && decide (n ≤ hi)
  | .named inside category => category.holds ascii c == inside

/-- Whether an item has letters in it, so that a set with it is matched in lower case. A long
range always has. -/
def SetItem.cased (wide : Bool) : SetItem → Bool
  | .range lo hi =>
    decide (lo + 512 < hi) || (List.range (hi + 1 - lo)).any fun i => Text.isCasedCode wide (lo + i)
  | .named .. => false

/-- **Whether a character is in a set.** -/
def setHolds (flags : Flags) (negated : Bool) (items : List SetItem) (c : Char) : Bool :=
  let wide := !flags.ascii
  let found :=
    if flags.ignoreCase && items.any (SetItem.cased wide) then
      let folded := Text.foldCode wide c.toNat
      let codes := Text.foldClass wide folded
      items.any (SetItem.holds flags.ascii codes (Char.ofNat folded))
    else items.any (SetItem.holds flags.ascii [c.toNat] c)
  found != negated

/-! ### Places -/

/-- A place in a match: a position, and the texts kept so far as pairs of positions. -/
structure Place where
  /-- The number of characters before the place. -/
  position : Nat
  /-- The kept texts by group, the latest first. -/
  kept : List (Nat × Nat × Nat)

/-- Whether a word character stands at a position. -/
def wordAt (flags : Flags) (text : Array Char) (position : Nat) : Bool :=
  (text[position]?).any (Category.word.holds flags.ascii)

/-- Whether an anchor matches at a position. -/
def Anchor.holds (flags : Flags) (text : Array Char) (position : Nat) : Anchor → Bool
  | .textStart => position == 0
  | .textEnd => position == text.size
  | .lineStart =>
    position == 0 || (flags.multiline && text[position - 1]? == some '\n')
  | .lineEnd =>
    position == text.size ||
      (text[position]? == some '\n' && (flags.multiline || position + 1 == text.size))
  | .wordEdge =>
    text.size != 0 &&
      ((position != 0 && wordAt flags text (position - 1)) != wordAt flags text position)
  | .noWordEdge =>
    text.size != 0 &&
      ((position != 0 && wordAt flags text (position - 1)) == wordAt flags text position)

/-- Whether the text from one position on repeats `count` characters from another on. -/
def repeats (flags : Flags) (text : Array Char) (source : Nat) (target : Nat) : Nat → Bool
  | 0 => true
  | count + 1 =>
    match text[source]?, text[target]? with
    | some c, some d =>
      let wide := !flags.ascii
      let same :=
        if flags.ignoreCase then Text.foldCode wide c.toNat == Text.foldCode wide d.toNat else c == d
      same && repeats flags text (source + 1) (target + 1) count
    | _, _ => false

/-! ### Depth -/

mutual

/-- The most nodes passed in a node, per character of the text. -/
def Node.weight : Node → Nat
  | .branch alternatives => weightAll alternatives + 1
  | .group _ _ _ body => weight body + 1
  | .atomic body => weight body + 1
  | .loop _ least _ body => (weight body + 2) * (least + 3)
  | .look _ _ body => weight body + 1
  | .conditional _ yes no _ => weight yes + weight no + 1
  | _ => 1

/-- **The most nodes passed in a sequence**, per character of the text. -/
def weight : List Node → Nat
  | [] => 1
  | node :: rest => node.weight + weight rest + 1

/-- The most nodes passed in any of some sequences. -/
def weightAll : List (List Node) → Nat
  | [] => 1
  | body :: rest => weight body + weightAll rest + 1

end

/-! ### The search -/

/-- What is to be matched after the part at hand. -/
abbrev Rest := Place → Option Place

mutual

/-- **Matching a sequence** from a place on, and then the rest. The first argument bounds the
depth of the search. -/
def run (text : Array Char) (widths : Nat → Nat × Nat) :
    Nat → Flags → List Node → Place → Rest → Option Place
  | 0, _, _, _, _ => none
  | _ + 1, _, [], place, rest => rest place
  | fuel + 1, flags, node :: nodes, place, rest =>
    let next : Rest := fun p => run text widths fuel flags nodes p rest
    match node with
    | .set negated items =>
      match text[place.position]? with
      | some c =>
        if setHolds flags negated items c then
          next { place with position := place.position + 1 }
        else none
      | none => none
    | .any =>
      match text[place.position]? with
      | some c =>
        if flags.dotAll || c != '\n' then next { place with position := place.position + 1 }
        else none
      | none => none
    | .anchor a => if a.holds flags text place.position then next place else none
    | .backref group =>
      match place.kept.lookup group with
      | none => none
      | some (start, stop) =>
        if repeats flags text start place.position (stop - start) then
          next { place with position := place.position + (stop - start) }
        else none
    | .branch alternatives =>
      alternatives.findSome? fun body => run text widths fuel flags body place next
    | .group index add del body =>
      run text widths fuel (flags.within add del) body place fun p =>
        next
          (match index with
          | none => p
          | some i => { p with kept := (i, place.position, p.position) :: p.kept })
    | .atomic body => (run text widths fuel flags body place some).bind next
    | .loop .greedy least most body =>
      runGreedy text widths fuel flags least most body none place next
    | .loop .lazy least most body => runLazy text widths fuel flags least most body none place next
    | .loop .possessive least most body =>
      (runPossessive text widths fuel flags least most body none place).bind next
    | .look true negative body =>
      match run text widths fuel flags body place some with
      | some p => if negative then none else next { p with position := place.position }
      | none => if negative then next place else none
    | .look false negative body =>
      let back := (width widths body).1
      let found :=
        if place.position < back then none
        else
          run text widths fuel flags body { place with position := place.position - back } some
      match found with
      | some p => if negative then none else next { p with position := place.position }
      | none => if negative then next place else none
    | .conditional group yes no _ =>
      let body := if (place.kept.lookup group).isSome then yes else no
      run text widths fuel flags body place next

/-- The rounds of a greedy repetition: another round is tried before the rest. After a round that
matched nothing there is no other, except to reach the least number. `last` is where the previous
optional round started. -/
def runGreedy (text : Array Char) (widths : Nat → Nat × Nat) :
    Nat → Flags → Nat → Option Nat → List Node → Option Nat → Place → Rest → Option Place
  | 0, _, _, _, _, _, _, _ => none
  | fuel + 1, flags, least, most, body, last, place, rest =>
    if 0 < least then
      run text widths fuel flags body place fun p =>
        runGreedy text widths fuel flags (least - 1) (most.map (· - 1)) body last p rest
    else
      let another :=
        if most != some 0 && last != some place.position then
          run text widths fuel flags body place fun p =>
            runGreedy text widths fuel flags 0 (most.map (· - 1)) body (some place.position) p rest
        else none
      match another with
      | some p => some p
      | none => rest place

/-- The rounds of a lazy repetition: the rest is tried before another round. -/
def runLazy (text : Array Char) (widths : Nat → Nat × Nat) :
    Nat → Flags → Nat → Option Nat → List Node → Option Nat → Place → Rest → Option Place
  | 0, _, _, _, _, _, _, _ => none
  | fuel + 1, flags, least, most, body, last, place, rest =>
    if 0 < least then
      run text widths fuel flags body place fun p =>
        runLazy text widths fuel flags (least - 1) (most.map (· - 1)) body last p rest
    else
      match rest place with
      | some p => some p
      | none =>
        if most != some 0 && last != some place.position then
          run text widths fuel flags body place fun p =>
            runLazy text widths fuel flags 0 (most.map (· - 1)) body (some place.position) p rest
        else none

/-- The rounds of a possessive repetition, each of which is final once it has matched. -/
def runPossessive (text : Array Char) (widths : Nat → Nat × Nat) :
    Nat → Flags → Nat → Option Nat → List Node → Option Nat → Place → Option Place
  | 0, _, _, _, _, _, _ => none
  | fuel + 1, flags, least, most, body, last, place =>
    if 0 < least then
      match run text widths fuel flags body place some with
      | none => none
      | some p =>
        runPossessive text widths fuel flags (least - 1) (most.map (· - 1)) body last p
    else if most != some 0 && last != some place.position then
      match run text widths fuel flags body place some with
      | none => some place
      | some p =>
        runPossessive text widths fuel flags 0 (most.map (· - 1)) body (some place.position) p
    else some place

end

/-- The widths of the groups of a pattern. -/
def groupWidths (p : Pattern) (group : Nat) : Nat × Nat :=
  ((p.widths[group - 1]?).join).getD (0, 0)

/-- **The end of a match at one place**, if there is one that `accept` admits. -/
def matchAt (p : Pattern) (text : Array Char) (start : Nat) (accept : Nat → Bool) : Option Nat :=
  let depth := (weight p.nodes + 1) * (text.size + 2)
  let finish : Rest := fun place => if accept place.position then some place else none
  (run text (groupWidths p) depth p.flags p.nodes ⟨start, []⟩ finish).map (·.position)

/-! ### Searching -/

/-- The first place from `start` on, with a match there that is not empty at `barred`. The first
argument is the number of places left. -/
def searchFrom (p : Pattern) (text : Array Char) (barred : Option Nat) :
    Nat → Nat → Option (Nat × Nat)
  | 0, _ => none
  | left + 1, start =>
    match matchAt p text start fun stop => !(stop == start && barred == some start) with
    | some stop => some (start, stop)
    | none => searchFrom p text barred left (start + 1)

/-- **Whether a pattern matches anywhere** in a text. -/
def occurs (p : Pattern) (text : List Char) : Bool :=
  let chars := text.toArray
  (searchFrom p chars none (chars.size + 1) 0).isSome

/-- The loop below `replaceAll`. After an empty match the next one at the same place is not
empty. The first argument bounds the number of matches. -/
def replaceFrom (p : Pattern) (text : Array Char) (replacement : List Char) :
    Nat → Nat → Option Nat → List Char
  | 0, done, _ => (text.toList).drop done
  | fuel + 1, done, barred =>
    match searchFrom p text barred (text.size + 1 - done) done with
    | none => (text.toList).drop done
    | some (start, stop) =>
      ((text.toList).drop done).take (start - done) ++ replacement ++
        replaceFrom p text replacement fuel stop (if start = stop then some stop else none)

/-- **Replacing every match** by a fixed text. -/
def replaceAll (p : Pattern) (replacement text : List Char) : List Char :=
  let chars := text.toArray
  replaceFrom p chars replacement (2 * chars.size + 2) 0 none

end RuleFlow.Pattern

import RuleFlow.Text.Quoted

/-!
# Pattern errors

* `RuleFlow.Pattern.Reason` lists what a pattern can be refused for.
* `RuleFlow.Pattern.Error` adds the place; `RuleFlow.Pattern.Error.message` words both.
-/

namespace RuleFlow.Pattern

/-- **What a pattern can be refused for.** -/
inductive Reason where
  /-- The pattern ends in a backslash. -/
  | openEscape
  /-- An escape that means nothing. -/
  | badEscape (escape : String)
  /-- An escape with too few digits. -/
  | shortEscape (escape : String)
  /-- An octal escape above one byte. -/
  | largeOctal (escape : String)
  /-- A name without a brace before it. -/
  | missingBrace
  /-- A character name that no character has. -/
  | unknownCharacterName (name : String)
  /-- A reference to a group that is still open. -/
  | openGroup
  /-- A reference inside a look-behind to a group defined in it. -/
  | lookbehindGroup
  /-- A reference to a group that does not exist. -/
  | noSuchGroup (group : Nat)
  /-- A reference by a name that no group has. -/
  | unknownGroupName (name : String)
  /-- A name with a character that names do not have. -/
  | badGroupName (name : String)
  /-- A name used for two groups. -/
  | nameTaken (name : String) (group other : Nat)
  /-- A reference to group zero. -/
  | groupZero
  /-- Nothing stands where something has to. -/
  | missing (what : String)
  /-- A name without its end. -/
  | openName (terminator : String)
  /-- A set without its end. -/
  | openSet
  /-- A range in a set that ends before it starts. -/
  | badRange (first last : String)
  /-- A repetition whose greatest number of rounds is below its least. -/
  | emptyRepeat
  /-- A repetition of nothing. -/
  | nothingToRepeat
  /-- A repetition of a repetition. -/
  | multipleRepeat
  /-- The pattern ends within an extension. -/
  | endOfPattern
  /-- An extension that does not exist. -/
  | unknownExtension (mark : String)
  /-- A comment without its end. -/
  | openComment
  /-- A group without its end. -/
  | openSubpattern
  /-- A third branch of a conditional. -/
  | thirdBranch
  /-- Switches for the whole pattern after its start. -/
  | lateFlags
  /-- A switch that does not exist. -/
  | unknownFlag
  /-- A switch for patterns of bytes. -/
  | byteFlag
  /-- Two choices of the character classes. -/
  | clashingFlags
  /-- A switch that only the whole pattern has, turned on for a part. -/
  | globalFlagOn
  /-- A switch that only the whole pattern has, turned off for a part. -/
  | globalFlagOff
  /-- The choice of the character classes turned off. -/
  | classFlagOff
  /-- A switch turned on and off. -/
  | flagOnAndOff
  /-- A closing parenthesis too many. -/
  | unbalanced
deriving DecidableEq, Repr

/-- The wording of a reason, without the place. -/
def Reason.message : Reason → String
  | .openEscape => "bad escape (end of pattern)"
  | .badEscape escape => s!"bad escape {escape}"
  | .shortEscape escape => s!"incomplete escape {escape}"
  | .largeOctal escape => s!"octal escape value {escape} outside of range 0-0o377"
  | .missingBrace => "missing \x7b"
  | .unknownCharacterName name => s!"undefined character name {Text.quote name}"
  | .openGroup => "cannot refer to an open group"
  | .lookbehindGroup => "cannot refer to group defined in the same lookbehind subpattern"
  | .noSuchGroup group => s!"invalid group reference {group}"
  | .unknownGroupName name => s!"unknown group name {Text.quote name}"
  | .badGroupName name => s!"bad character in group name {Text.quote name}"
  | .nameTaken name group other =>
    s!"redefinition of group name {Text.quote name} as group {group}; was group {other}"
  | .groupZero => "bad group number"
  | .missing what => s!"missing {what}"
  | .openName terminator => s!"missing {terminator}, unterminated name"
  | .openSet => "unterminated character set"
  | .badRange first last => s!"bad character range {first}-{last}"
  | .emptyRepeat => "min repeat greater than max repeat"
  | .nothingToRepeat => "nothing to repeat"
  | .multipleRepeat => "multiple repeat"
  | .endOfPattern => "unexpected end of pattern"
  | .unknownExtension mark => s!"unknown extension ?{mark}"
  | .openComment => "missing ), unterminated comment"
  | .openSubpattern => "missing ), unterminated subpattern"
  | .thirdBranch => "conditional backref with more than two branches"
  | .lateFlags => "global flags not at the start of the expression"
  | .unknownFlag => "unknown flag"
  | .byteFlag => "bad inline flags: cannot use 'L' flag with a str pattern"
  | .clashingFlags => "bad inline flags: flags 'a', 'u' and 'L' are incompatible"
  | .globalFlagOn => "bad inline flags: cannot turn on global flag"
  | .globalFlagOff => "bad inline flags: cannot turn off global flag"
  | .classFlagOff => "bad inline flags: cannot turn off flags 'a', 'u' and 'L'"
  | .flagOnAndOff => "bad inline flags: flag turned on and off"
  | .unbalanced => "unbalanced parenthesis"

/-- **A refused pattern.** -/
inductive Error where
  /-- A reason, and the number of characters before its place. -/
  | at (reason : Reason) (position : Nat)
  /-- A look-behind whose width is not fixed. -/
  | variableLookbehind
  /-- A number of rounds beyond all bounds. -/
  | hugeRepeat
  /-- Two choices of the character classes for the whole pattern. -/
  | clashingClasses
deriving DecidableEq, Repr

/-- **The wording of a refusal.** A pattern of several lines has its line and column named. -/
def Error.message (pattern : List Char) : Error → String
  | .at reason position =>
    let before := pattern.take position
    let line := before.count '\n' + 1
    let column := (before.reverse.takeWhile (· != '\n')).length + 1
    let plain := s!"{reason.message} at position {position}"
    if pattern.contains '\n' then s!"{plain} (line {line}, column {column})" else plain
  | .variableLookbehind => "look-behind requires fixed-width pattern"
  | .hugeRepeat => "the repetition number is too large"
  | .clashingClasses => "ASCII and UNICODE flags are incompatible"

end RuleFlow.Pattern

import RuleFlow.Pattern.Error
import RuleFlow.Pattern.Syntax

/-!
# A cursor in a pattern

A pattern is read one symbol at a time, a symbol being a character or a backslash with the
character after it. One symbol is always read ahead, so a backslash at the end of the pattern is
noticed as soon as it is next.

* `RuleFlow.Pattern.Cursor` is the place in a pattern.
* `RuleFlow.Pattern.Reading` is a computation that moves it.
-/

namespace RuleFlow.Pattern

/-- **A symbol**: a character, or a backslash and a character. -/
structure Symbol where
  /-- Whether a backslash stands before the character. -/
  escaped : Bool
  /-- The character. -/
  char : Char
deriving DecidableEq, Repr

namespace Symbol

/-- The number of characters of a symbol. -/
def size (s : Symbol) : Nat :=
  if s.escaped then 2 else 1

/-- The text of a symbol. -/
def text (s : Symbol) : String :=
  String.ofList (if s.escaped then ['\\', s.char] else [s.char])

/-- Whether a symbol is the plain character. -/
def is (s : Symbol) (c : Char) : Bool :=
  !s.escaped && s.char == c

end Symbol

/-- **A place in a pattern.** -/
structure Cursor where
  /-- The symbol read ahead, if there is one. -/
  next : Option Symbol
  /-- The characters after it. -/
  rest : List Char
  /-- The number of characters before `rest`. -/
  index : Nat
deriving DecidableEq, Repr

namespace Cursor

/-- The number of characters before the symbol read ahead. -/
def position (c : Cursor) : Nat :=
  c.index - c.next.elim 0 Symbol.size

/-- The cursor with the next symbol read ahead. -/
def fill (rest : List Char) (index : Nat) : Except Error Cursor :=
  match rest with
  | [] => .ok ⟨none, [], index⟩
  | '\\' :: [] => .error (.at .openEscape index)
  | '\\' :: c :: more => .ok ⟨some ⟨true, c⟩, more, index + 2⟩
  | c :: more => .ok ⟨some ⟨false, c⟩, more, index + 1⟩

end Cursor

/-- What has been read of the groups of a pattern. -/
structure Groups where
  /-- The widths of the groups in the order of their numbers, none for one that is still open. -/
  widths : List (Option (Nat × Nat)) := []
  /-- The numbers of the named groups. -/
  names : List (String × Nat) := []
  /-- The number of groups before the outermost look-behind that is being read. -/
  lookbehind : Option Nat := none
  /-- The groups that conditionals ask for, with the places where they do. -/
  asked : List (Nat × Nat) := []
deriving Repr

/-- The number of groups, the whole pattern being one. -/
def Groups.count (g : Groups) : Nat :=
  g.widths.length + 1

/-- Whether a group has been closed. -/
def Groups.closed (g : Groups) (group : Nat) : Bool :=
  1 ≤ group && ((g.widths[group - 1]?).join).isSome

/-- The state of a reading. -/
structure ReadState where
  /-- The place in the pattern. -/
  cursor : Cursor
  /-- The switches of the whole pattern. -/
  flags : Flags
  /-- The groups so far. -/
  groups : Groups

/-- **A computation that reads a pattern.** -/
abbrev Reading := StateT ReadState (Except Error)

namespace Reading

/-- The symbol read ahead. -/
def peek : Reading (Option Symbol) :=
  return (← get).cursor.next

/-- The place of the symbol read ahead. -/
def position : Reading Nat :=
  return (← get).cursor.position

/-- A refusal `back` characters before the symbol read ahead. -/
def refuse {α : Type} (reason : Reason) (back : Nat) : Reading α := do
  let here ← position
  throw (.at reason (here - back))

/-- The next symbol. -/
def take : Reading (Option Symbol) := do
  let s ← get
  let cursor ← Cursor.fill s.cursor.rest s.cursor.index
  set { s with cursor := cursor }
  return s.cursor.next

/-- Whether the next symbol is a plain character, which is then taken. -/
def accept (c : Char) : Reading Bool := do
  match ← peek with
  | some s => if s.is c then (do let _ ← take; return true) else return false
  | none => return false

/-- Up to `count` plain characters that satisfy a test. -/
def takeWhileUpTo (test : Char → Bool) : Nat → Reading (List Char)
  | 0 => return []
  | count + 1 => do
    match ← peek with
    | some s =>
      if !s.escaped && test s.char then
        let _ ← take
        return s.char :: (← takeWhileUpTo test count)
      else return []
    | none => return []

/-- The loop below `name`; the first argument bounds the number of symbols. -/
def nameFrom (terminator : Char) (what : String) : Nat → String → Reading String
  | 0, acc => return acc
  | fuel + 1, acc => do
    match ← take with
    | none =>
      if acc.isEmpty then refuse (.missing what) 0
      else refuse (.openName (String.ofList [terminator])) acc.length
    | some s =>
      if s.is terminator then
        if acc.isEmpty then refuse (.missing what) 1 else return acc
      else nameFrom terminator what fuel (acc ++ s.text)

/-- A name up to its terminator, which is taken too. -/
def name (terminator : Char) (what : String) : Reading String := do
  let s ← get
  nameFrom terminator what (s.cursor.rest.length + 2) ""

end Reading

end RuleFlow.Pattern

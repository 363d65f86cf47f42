import RuleFlow.Number.Whole
import RuleFlow.Pattern.Cursor
import RuleFlow.Text.Identifier
import RuleFlow.Text.Word

/-!
# Reading patterns

* `RuleFlow.Pattern.read` reads a whole pattern, or says what it is refused for. Refusals come in
  the order of the text; what concerns the whole pattern is looked at afterwards.

The names of characters are not known here: a pattern that asks for a character by its name is
refused as if there were no such name.
-/

namespace RuleFlow.Pattern

open Reading

/-! ### Characters -/

/-- An octal digit. -/
def isOctal (c : Char) : Bool :=
  decide (48 ≤ c.toNat) && decide (c.toNat ≤ 55)

/-- A hexadecimal digit. -/
def isHex (c : Char) : Bool :=
  c.isDigit || (decide (65 ≤ c.toNat) && decide (c.toNat ≤ 70)) ||
    (decide (97 ≤ c.toNat) && decide (c.toNat ≤ 102))

/-- The value of a digit in any base up to sixteen. -/
def digitOf (c : Char) : Nat :=
  if c.toNat ≤ 57 then c.toNat - 48 else if c.toNat ≤ 70 then c.toNat - 55 else c.toNat - 87

/-- The value of digits in a base. -/
def valueIn (base : Nat) (cs : List Char) : Nat :=
  cs.foldl (fun n c => n * base + digitOf c) 0

/-- The white space that is skipped in a verbose pattern. -/
def isSkipped (c : Char) : Bool :=
  c == ' ' || (decide (9 ≤ c.toNat) && decide (c.toNat ≤ 13))

/-- A single code point as a node. -/
def Node.code (n : Nat) : Node :=
  .set false [.range n n]

/-! ### Escapes -/

/-- The class that a letter after a backslash stands for, and whether the letter means the
characters in it or those outside. -/
def namedCategory? : Char → Option (Bool × Category)
  | 'd' => some (true, .digit)
  | 'D' => some (false, .digit)
  | 's' => some (true, .blank)
  | 'S' => some (false, .blank)
  | 'w' => some (true, .word)
  | 'W' => some (false, .word)
  | _ => none

/-- The code point that a letter after a backslash stands for; `b` is not among them. -/
def namedCode? : Char → Option Nat
  | 'a' => some 7
  | 'f' => some 12
  | 'n' => some 10
  | 'r' => some 13
  | 't' => some 9
  | 'v' => some 11
  | '\\' => some 92
  | _ => none

/-- A hexadecimal escape of exactly `count` digits after the letter `c`. A number that no
character has is refused. -/
def hexEscape (c : Char) (count : Nat) : Reading Nat := do
  let ds ← takeWhileUpTo isHex count
  let escape := String.ofList ('\\' :: c :: ds)
  if ds.length ≠ count then refuse (.shortEscape escape) escape.length
  else if 1114112 ≤ valueIn 16 ds then refuse (.badEscape escape) escape.length
  else return valueIn 16 ds

/-- The escapes that mean the same inside and outside a set: hexadecimal ones, and characters by
name, of which none is known. -/
def commonEscape? (c : Char) : Reading (Option Nat) := do
  match c with
  | 'x' => return some (← hexEscape c 2)
  | 'u' => return some (← hexEscape c 4)
  | 'U' => return some (← hexEscape c 8)
  | 'N' =>
    if ← accept '\x7b' then
      let name ← name '\x7d' "character name"
      refuse (.unknownCharacterName name) (name.length + 4)
    else refuse .missingBrace 0
  | _ => return none

/-- What is left of the escapes: a letter is refused, and any other character means itself. -/
def plainEscape (c : Char) : Reading Nat := do
  if c.isAlpha then refuse (.badEscape (String.ofList ['\\', c])) 2 else return c.toNat

/-- An escape inside a set. -/
def setEscape (c : Char) : Reading SetItem := do
  match if c == 'b' then some 8 else namedCode? c with
  | some n => return .range n n
  | none =>
    match namedCategory? c with
    | some (inside, category) => return .named inside category
    | none =>
      match ← commonEscape? c with
      | some n => return .range n n
      | none =>
        if isOctal c then
          let ds := c :: (← takeWhileUpTo isOctal 2)
          let n := valueIn 8 ds
          if 255 < n then refuse (.largeOctal (String.ofList ('\\' :: ds))) (ds.length + 1)
          else return .range n n
        else if c.isDigit then refuse (.badEscape (String.ofList ['\\', c])) 2
        else
          let n ← plainEscape c
          return .range n n

/-- The anchor or class that a letter after a backslash stands for outside a set. -/
def namedNode? (c : Char) : Option Node :=
  match c with
  | 'A' => some (.anchor .textStart)
  | 'Z' => some (.anchor .textEnd)
  | 'b' => some (.anchor .wordEdge)
  | 'B' => some (.anchor .noWordEdge)
  | _ =>
    match namedCategory? c with
    | some (inside, category) => some (.set false [.named inside category])
    | none => (namedCode? c).map Node.code

/-- A look-behind must not refer to a group that it defines. -/
def checkLookbehindGroup (group : Nat) : Reading Unit := do
  let s ← get
  match s.groups.lookbehind with
  | none => return ()
  | some before =>
    if !s.groups.closed group then refuse .openGroup 0
    else if before ≤ group then refuse .lookbehindGroup 0
    else return ()

/-- A reference to a group by the digits after a backslash. -/
def groupReference (ds : List Char) : Reading Node := do
  let group := valueIn 10 ds
  let s ← get
  if group < s.groups.count then
    if !s.groups.closed group then refuse .openGroup (ds.length + 1)
    else
      checkLookbehindGroup group
      return .backref group
  else refuse (.noSuchGroup group) ds.length

/-- A digit other than zero after a backslash starts an octal escape if three octal digits stand
there, and a reference to a group otherwise. -/
def numberedEscape (c : Char) : Reading Node := do
  match ← takeWhileUpTo Char.isDigit 1 with
  | d :: _ =>
    if isOctal c && isOctal d then
      match ← takeWhileUpTo isOctal 1 with
      | e :: _ =>
        let n := valueIn 8 [c, d, e]
        if 255 < n then refuse (.largeOctal (String.ofList ['\\', c, d, e])) 4
        else return .code n
      | [] => groupReference [c, d]
    else groupReference [c, d]
  | [] => groupReference [c]

/-- **An escape outside a set.** -/
def escape (c : Char) : Reading Node := do
  match namedNode? c with
  | some node => return node
  | none =>
    match ← commonEscape? c with
    | some n => return .code n
    | none =>
      if c == '0' then return .code (valueIn 8 (← takeWhileUpTo isOctal 2))
      else if c.isDigit then numberedEscape c
      else return .code (← plainEscape c)

/-! ### Sets -/

/-- One end of a range, or an item by itself. -/
def setSymbol (s : Symbol) : Reading SetItem :=
  if s.escaped then setEscape s.char else return .range s.char.toNat s.char.toNat

/-- The items of a set after its opening at `start`. The first argument bounds their number. -/
def setItems (start : Nat) : Nat → List SetItem → Reading (List SetItem)
  | 0, items => return items
  | fuel + 1, items => do
    let unterminated : Reading (List SetItem) := do throw (.at .openSet start)
    match ← take with
    | none => unterminated
    | some s =>
      if s.is ']' && !items.isEmpty then return items
      else
        let item ← setSymbol s
        if ← accept '-' then
          match ← take with
          | none => unterminated
          | some t =>
            if t.is ']' then return items ++ [item, .range 45 45]
            else
              let other ← setSymbol t
              let bad : Reading (List SetItem) :=
                refuse (.badRange s.text t.text) (s.size + 1 + t.size)
              match item, other with
              | .range lo _, .range hi _ =>
                if hi < lo then bad else setItems start fuel (items ++ [.range lo hi])
              | _, _ => bad
        else setItems start fuel (items ++ [item])

/-- A set of characters after its opening bracket. -/
def characterSet : Reading Node := do
  let start := (← position) - 1
  let negated ← accept '^'
  let s ← get
  return .set negated (← setItems start (s.cursor.rest.length + 2) [])

/-! ### Repetitions -/

/-- The rounds of a repetition with braces, or nothing where the brace is an ordinary
character. -/
def bracedRounds? : Reading (Option (Nat × Option Nat)) := do
  let here ← get
  let start ← position
  if (← peek).any (·.is '\x7d') then return none
  else
    let width := here.cursor.rest.length + 1
    let lo ← takeWhileUpTo Char.isDigit width
    let comma ← accept ','
    let hi ← if comma then takeWhileUpTo Char.isDigit width else pure lo
    if !(← accept '\x7d') then
      set here
      return none
    else
      let least := valueIn 10 lo
      let most := if hi.isEmpty then none else some (valueIn 10 hi)
      if unboundedRounds ≤ least then throw .hugeRepeat
      match most with
      | none => return some (least, none)
      | some n =>
        if unboundedRounds ≤ n then throw .hugeRepeat
        else if n < least then throw (.at .emptyRepeat start)
        else return some (least, most)

/-- How the rounds are chosen: a mark may follow the repetition. -/
def readGreed : Reading Greed := do
  if ← accept '?' then return .lazy
  else if ← accept '+' then return .possessive
  else return .greedy

/-- The repetition of the last of the nodes read so far. A plain group is replaced by what it
holds. `start` is the place of the mark of the repetition. -/
def repeated (start : Nat) (rounds : Nat × Option Nat) (nodes : List Node) :
    Reading (List Node) := do
  match nodes.reverse with
  | [] => throw (.at .nothingToRepeat start)
  | .anchor _ :: _ => throw (.at .nothingToRepeat start)
  | .loop .. :: _ => throw (.at .multipleRepeat start)
  | last :: before =>
    return before.reverse ++ [.loop (← readGreed) rounds.1 rounds.2 [last]]

/-! ### Switches -/

/-- The switch that a letter stands for. -/
def flagOf? : Char → Option Flags
  | 'i' => some { ignoreCase := true }
  | 'm' => some { multiline := true }
  | 's' => some { dotAll := true }
  | 'x' => some { verbose := true }
  | 'a' => some { ascii := true }
  | 't' => some { template := true }
  | 'u' => some { wide := true }
  | _ => none

/-- Whether a symbol is the letter of a switch, that for bytes included. -/
def isFlag (s : Symbol) : Bool :=
  !s.escaped && (s.char == 'L' || (flagOf? s.char).isSome)

/-- A refusal of something that is no switch. -/
def refuseFlag {α : Type} (s : Symbol) (what : String) : Reading α :=
  refuse (if !s.escaped && Text.isLetter s.char then .unknownFlag else .missing what) s.size

/-- The switches to be turned on, from one letter on, with the symbol that ends them. -/
def flagsOn : Nat → Char → Flags → Reading (Flags × Char)
  | 0, _, _ => throw (.at .endOfPattern 0)
  | fuel + 1, c, add => do
    match flagOf? c with
    | none => refuse .byteFlag 0
    | some flag =>
      let add := add.union flag
      if (flag.ascii || flag.wide) && add.ascii && add.wide then refuse .clashingFlags 0
      match ← take with
      | none => refuse (.missing "-, : or )") 0
      | some s =>
        if s.is ')' || s.is '-' || s.is ':' then return (add, s.char)
        else if isFlag s then flagsOn fuel s.char add
        else refuseFlag s "-, : or )"

/-- The switches to be turned off, from one letter on, up to the colon. -/
def flagsOff : Nat → Char → Flags → Reading Flags
  | 0, _, _ => throw (.at .endOfPattern 0)
  | fuel + 1, c, del => do
    let flag := (flagOf? c).getD {}
    if c == 'L' || flag.ascii || flag.wide then refuse .classFlagOff 0
    let del := del.union flag
    match ← take with
    | none => refuse (.missing ":") 0
    | some s =>
      if s.is ':' then return del
      else if isFlag s then flagsOff fuel s.char del
      else refuseFlag s ":"

/-- The switches after an opening, from the letter or hyphen `c` on: those to be turned on and off
for a part, or nothing where they are for the whole pattern. -/
def inlineFlags (c : Char) : Reading (Option (Flags × Flags)) := do
  let width := (← get).cursor.rest.length + 2
  let (add, stop) ← if c == '-' then pure ({}, '-') else flagsOn width c {}
  if stop == ')' then
    modify fun s => { s with flags := s.flags.union add }
    return none
  else
    if add.template then refuse .globalFlagOn 1
    let del ←
      if stop == '-' then
        match ← take with
        | none => refuse (.missing "flag") 0
        | some s => if isFlag s then flagsOff width s.char {} else refuseFlag s "flag"
      else pure {}
    if del.template then refuse .globalFlagOff 1
    if add.inter del ≠ {} then refuse .flagOnAndOff 1
    return some (add, del)

/-! ### Groups -/

/-- A new group, open for now. -/
def openGroup (name : Option String) : Reading Nat := do
  let s ← get
  let group := s.groups.count
  let names ←
    match name with
    | none => pure s.groups.names
    | some n =>
      match s.groups.names.lookup n with
      | some other => refuse (.nameTaken n group other) (n.length + 1)
      | none => pure (s.groups.names ++ [(n, group)])
  set { s with groups := { s.groups with widths := s.groups.widths ++ [none], names := names } }
  return group

/-- The widths of the closed groups. -/
def Groups.width (g : Groups) (group : Nat) : Nat × Nat :=
  ((g.widths[group - 1]?).join).getD (0, 0)

/-- The end of a group that holds `body`. -/
def closeGroup (group : Nat) (body : List Node) : Reading Unit :=
  modify fun s =>
    { s with
      groups :=
        { s.groups with
          widths := s.groups.widths.set (group - 1) (some (width s.groups.width body)) } }

/-- The name of a group, which has to be one. -/
def groupName (terminator : Char) : Reading String := do
  let n ← name terminator "group name"
  if Text.isIdentifier n then return n else refuse (.badGroupName n) (n.length + 1)

/-- A reference to a group by name. -/
def namedReference : Reading Node := do
  let n ← groupName ')'
  match (← get).groups.names.lookup n with
  | none => refuse (.unknownGroupName n) (n.length + 1)
  | some group =>
    if !(← get).groups.closed group then refuse .openGroup (n.length + 1)
    checkLookbehindGroup group
    return .backref group

/-- The group that a conditional asks for, by name or by number. -/
def askedGroup : Reading Nat := do
  let n ← name ')' "group name"
  let group ←
    if Text.isIdentifier n then
      match (← get).groups.names.lookup n with
      | none => refuse (.unknownGroupName n) (n.length + 1)
      | some group => pure group
    else
      match Number.readWhole? n with
      | some (.ofNat 0) => refuse .groupZero (n.length + 1)
      | some (.ofNat group) =>
        if 2147483647 ≤ group then refuse (.noSuchGroup group) (n.length + 1)
        let place := (← position) - n.length - 1
        modify fun s =>
          if (s.groups.asked.lookup group).isSome then s
          else { s with groups := { s.groups with asked := s.groups.asked ++ [(group, place)] } }
        pure group
      | _ => refuse (.badGroupName n) (n.length + 1)
  checkLookbehindGroup group
  return group

/-- The rest of a comment that was opened at `start`. -/
def skipComment (start : Nat) : Nat → Reading Unit
  | 0 => return ()
  | fuel + 1 => do
    match ← peek with
    | none => throw (.at .openComment start)
    | some s =>
      let _ ← take
      if s.is ')' then return () else skipComment start fuel

/-- The rest of a line of a verbose pattern. -/
def skipLine : Nat → Reading Unit
  | 0 => return ()
  | fuel + 1 => do
    match ← take with
    | none => return ()
    | some s => if s.is '\n' then return () else skipLine fuel

/-- The end of a group that was opened at `start`. -/
def expectClose (start : Nat) : Reading Unit := do
  if ← accept ')' then return () else throw (.at .openSubpattern start)

/-- What an opening parenthesis turns out to be. -/
inductive Opening where
  /-- Nothing is left to read. -/
  | done (node : Option Node)
  /-- A group whose text is kept. -/
  | keep (name : Option String)
  /-- A group whose text is not kept, with the switches it turns on and off. -/
  | plain (add del : Flags)
  /-- An atomic group. -/
  | atomic
  /-- A look-ahead or look-behind. -/
  | look (ahead negative : Bool)
  /-- A conditional. -/
  | conditional
  /-- Switches for the whole pattern. -/
  | flags

/-- What follows the letter of the named extensions. -/
def namedOpening : Reading Opening := do
  if ← accept '<' then return .keep (some (← groupName '>'))
  else if ← accept '=' then return .done (some (← namedReference))
  else
    match ← take with
    | none => refuse .endOfPattern 0
    | some s => refuse (.unknownExtension ("P" ++ s.text)) (s.size + 2)

/-- The kind of look-behind. -/
def lookbehindOpening : Reading Opening := do
  match ← take with
  | none => refuse .endOfPattern 0
  | some s =>
    if s.is '=' then return .look false false
    else if s.is '!' then return .look false true
    else refuse (.unknownExtension ("<" ++ s.text)) (s.size + 2)

/-- **What an opening parenthesis at `start` turns out to be.** -/
def opening (start : Nat) : Reading Opening := do
  if !(← accept '?') then return .keep none
  else
    match ← take with
    | none => refuse .endOfPattern 0
    | some s =>
      if s.is 'P' then namedOpening
      else if s.is ':' then return .plain {} {}
      else if s.is '#' then
        skipComment start ((← get).cursor.rest.length + 2)
        return .done none
      else if s.is '=' then return .look true false
      else if s.is '!' then return .look true true
      else if s.is '<' then lookbehindOpening
      else if s.is '(' then return .conditional
      else if s.is '>' then return .atomic
      else if isFlag s || s.is '-' then
        match ← inlineFlags s.char with
        | none => return .flags
        | some (add, del) => return .plain add del
      else refuse (.unknownExtension s.text) (s.size + 1)

/-! ### Sequences and choices -/

mutual

/-- The alternatives of a choice. At the top of a pattern each of them takes over the switch that
skips white space. -/
def readChoice (verbose top : Bool) : Nat → List (List Node) → Reading (List Node)
  | 0, _ => throw (.at .endOfPattern 0)
  | fuel + 1, done => do
    let body ← readSequence verbose (top && done.isEmpty) fuel []
    if ← accept '|' then
      let verbose ← if top then pure (← get).flags.verbose else pure verbose
      readChoice verbose top fuel (done ++ [body])
    else
      match done with
      | [] => return body
      | _ => return [.branch (done ++ [body])]

/-- The inside of a parenthesis that was opened at `start`, up to and with its end. -/
def readGroup (verbose : Bool) (start : Nat) (kind : Opening) : Nat → Reading Node
  | 0 => throw (.at .endOfPattern 0)
  | fuel + 1 => do
    match kind with
    | .done node => return node.getD .any
    | .flags => return .any
    | .keep name =>
      let group ← openGroup name
      let body ← readChoice verbose false fuel []
      expectClose start
      closeGroup group body
      return .group (some group) {} {} body
    | .plain add del =>
      let body ← readChoice ((verbose || add.verbose) && !del.verbose) false fuel []
      expectClose start
      return .group none add del body
    | .atomic =>
      let body ← readChoice verbose false fuel []
      expectClose start
      return .atomic body
    | .look ahead negative =>
      let outer := (← get).groups.lookbehind
      if !ahead && outer.isNone then
        modify fun s => { s with groups := { s.groups with lookbehind := some s.groups.count } }
      let body ← readChoice verbose false fuel []
      if !ahead && outer.isNone then
        modify fun s => { s with groups := { s.groups with lookbehind := none } }
      expectClose start
      return .look ahead negative body
    | .conditional =>
      let group ← askedGroup
      let yes ← readSequence verbose false fuel []
      if ← accept '|' then
        let no ← readSequence verbose false fuel []
        if (← peek).any (·.is '|') then refuse .thirdBranch 0
        expectClose start
        return .conditional group yes no true
      else
        expectClose start
        return .conditional group yes [] false

/-- The nodes of a sequence, up to its end or a bar. -/
def readSequence (verbose first : Bool) : Nat → List Node → Reading (List Node)
  | 0, _ => throw (.at .endOfPattern 0)
  | fuel + 1, nodes => do
    match ← peek with
    | none => return nodes
    | some s =>
      if s.is '|' || s.is ')' then return nodes
      else
        let start ← position
        let _ ← take
        if s.escaped then
          let node ← escape s.char
          readSequence verbose first fuel (nodes ++ [node])
        else if verbose && isSkipped s.char then readSequence verbose first fuel nodes
        else if verbose && s.char == '#' then
          skipLine ((← get).cursor.rest.length + 2)
          readSequence verbose first fuel nodes
        else if s.char == '[' then
          let node ← characterSet
          readSequence verbose first fuel (nodes ++ [node])
        else if s.char == '?' then
          readSequence verbose first fuel (← repeated start (0, some 1) nodes)
        else if s.char == '*' then
          readSequence verbose first fuel (← repeated start (0, none) nodes)
        else if s.char == '+' then
          readSequence verbose first fuel (← repeated start (1, none) nodes)
        else if s.char == '\x7b' then
          match ← bracedRounds? with
          | none => readSequence verbose first fuel (nodes ++ [.code 123])
          | some rounds => readSequence verbose first fuel (← repeated start rounds nodes)
        else if s.char == '.' then readSequence verbose first fuel (nodes ++ [.any])
        else if s.char == '^' then
          readSequence verbose first fuel (nodes ++ [.anchor .lineStart])
        else if s.char == '$' then
          readSequence verbose first fuel (nodes ++ [.anchor .lineEnd])
        else if s.char == '(' then
          match ← opening start with
          | .done none => readSequence verbose first fuel nodes
          | .flags =>
            if !first || !nodes.isEmpty then throw (.at .lateFlags start)
            readSequence (← get).flags.verbose first fuel nodes
          | kind =>
            let node ← readGroup verbose start kind fuel
            readSequence verbose first fuel (nodes ++ [node])
        else readSequence verbose first fuel (nodes ++ [.code s.char.toNat])

end

/-! ### The whole pattern -/

mutual

/-- Whether every look-behind in a node has a fixed width. -/
def Node.fixedLookbehind (groups : Nat → Nat × Nat) : Node → Bool
  | .look ahead _ body =>
    (ahead || (width groups body).1 == (width groups body).2) && fixedLookbehinds groups body
  | .branch alternatives => fixedLookbehindAll groups alternatives
  | .group _ _ _ body => fixedLookbehinds groups body
  | .atomic body => fixedLookbehinds groups body
  | .loop _ _ _ body => fixedLookbehinds groups body
  | .conditional _ yes no _ => fixedLookbehinds groups yes && fixedLookbehinds groups no
  | _ => true

/-- Whether every look-behind in a sequence has a fixed width. -/
def fixedLookbehinds (groups : Nat → Nat × Nat) : List Node → Bool
  | [] => true
  | node :: rest => node.fixedLookbehind groups && fixedLookbehinds groups rest

/-- Whether every look-behind in some sequences has a fixed width. -/
def fixedLookbehindAll (groups : Nat → Nat × Nat) : List (List Node) → Bool
  | [] => true
  | body :: rest => fixedLookbehinds groups body && fixedLookbehindAll groups rest

end

end RuleFlow.Pattern

namespace RuleFlow

/-- **A pattern that has been read**: its nodes, the switches for the whole of it, and the widths
of its groups. -/
structure Pattern where
  /-- The nodes in order. -/
  nodes : List Pattern.Node
  /-- The switches for the whole pattern. -/
  flags : Pattern.Flags
  /-- The widths of the groups. -/
  widths : List (Option (Nat × Nat))

namespace Pattern

open Reading

/-- Reading a pattern to its end, and the checks of the whole. -/
def readAll (cs : List Char) : Reading Pattern := do
  let nodes ← readChoice false true (4 * cs.length + 4) []
  let s ← get
  if s.flags.ascii && s.flags.wide then throw .clashingClasses
  if s.cursor.next.isSome then refuse .unbalanced 0
  match s.groups.asked.find? fun asked => decide (s.groups.count ≤ asked.1) with
  | some (group, place) => throw (.at (.noSuchGroup group) place)
  | none =>
    if fixedLookbehinds s.groups.width nodes then
      return { nodes, flags := s.flags, widths := s.groups.widths }
    else throw .variableLookbehind

/-- **Reading a pattern.** -/
def read (cs : List Char) : Except Error Pattern := do
  let cursor ← Cursor.fill cs 0
  (readAll cs).run' { cursor, flags := {}, groups := {} }

end Pattern

end RuleFlow

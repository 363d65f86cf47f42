import RuleFlow.Program.Basic

/-!
# The text of programs

A program is written in Python, so that it runs without this library beside a fixed set of helper
functions.

* `RuleFlow.Value.literalText` writes a value as an expression, from which a running program reads
  it back (`RuleFlow.Literal.read?`), and `RuleFlow.Program.Expr.text` writes any expression.
* `RuleFlow.Program.header`, `declarations` and `function` are the parts of the text that depend on
  the rule, and `RuleFlow.Program.text` is all of them; `RuleFlow.Program.entrypoint` is the name
  of its function.
-/

namespace RuleFlow

open Number Calendar

/-! ### Expressions -/

namespace Value

mutual

/-- **A value as an expression.** -/
def literalText : Value → String
  | .decimal d => s!"Decimal({Text.quote d.toText})"
  | .temporal (.day d) => s!"date.fromisoformat({Text.quote d.isoText})"
  | .temporal (.moment m) => s!"datetime.fromisoformat({Text.quote m.isoText})"
  | .float x =>
    match x with
    | .finite _ => x.toText
    | _ => s!"float({Text.quote x.toText})"
  | .list items => "[" ++ ", ".intercalate (literalItems items) ++ "]"
  | .record fields => "\x7b" ++ ", ".intercalate (literalFields fields) ++ "\x7d"
  | .null => Value.null.inspect
  | .bool b => (Value.bool b).inspect
  | .int n => toString n
  | .text s => Text.quote s

/-- The items of a list as expressions. -/
def literalItems : List Value → List String
  | [] => []
  | v :: rest => v.literalText :: literalItems rest

/-- The fields of a record as expressions. -/
def literalFields : List (String × Value) → List String
  | [] => []
  | (key, v) :: rest => (Text.quote key ++ ": " ++ v.literalText) :: literalFields rest

end

end Value

namespace Program

mutual

/-- **The text of an expression.** -/
def Expr.text : Expr → String
  | .literal v => v.literalText
  | .named name => s!"context[{Text.quote name}]"
  | .list items => "[" ++ ", ".intercalate (Expr.texts items) ++ "]"

/-- The texts of a list of expressions. -/
def Expr.texts : List Expr → List String
  | [] => []
  | expr :: rest => expr.text :: Expr.texts rest

end

/-- The text of a step to go on at, or of none. -/
def targetText (target : Option String) : String :=
  target.elim "None" Text.quote

/-! ### Statements -/

/-- **The lines of a statement.** -/
def Statement.lines : Statement → List String
  | .call builtin args => [s!"result = invoke({builtin.name}, {(Expr.list args).text})"]
  | .returnFailure => ["if not result[\"success\"]:", "    return result"]
  | .keep name => [s!"context[{Text.quote name}] = result[\"value\"]"]
  | .compare combinator operator left leftType right rightType =>
    let comparison :=
      s!"compare('{operator.name}', {left.text}, '{leftType.name}', {right.text}, " ++
        s!"'{rightType.name}')"
    match combinator with
    | none => ["matched = " ++ comparison]
    | some c => [s!"matched = combine(matched, '{c.name}', {comparison})"]
  | .goTo target => ["step = " ++ targetText target]
  | .goToEither onTrue onFalse =>
    [s!"step = {targetText onTrue} if matched else {targetText onFalse}"]
  | .returnValue value => [s!"return ok({value.text})"]
  | .returnError code message => [s!"return fail({code}, stringify({message.text}))"]

/-- Lines moved in by some levels. -/
def indented (levels : Nat) (lines : List String) : List String :=
  lines.map (String.ofList (List.replicate (4 * levels) ' ') ++ ·)

/-- The lines of the blocks, each behind the test for its step. -/
def blockLines (blocks : List (String × List Statement)) : List String :=
  blocks.zipIdx.flatMap fun ((id, statements), i) =>
    let keyword := if i = 0 then "if" else "elif"
    s!"{keyword} step == {Text.quote id}:" ::
      indented 1 (statements.flatMap Statement.lines)

/-! ### The parts of a program -/

/-- Whether a character may stand in a name. -/
def isNameChar (c : Char) : Bool :=
  c.isAlphanum || c == '_'

/-- **The name of the function** of a rule: what may not stand in a name becomes a low line. -/
def entrypointOf (ruleId : String) : String :=
  "rule_" ++ String.ofList (ruleId.toList.map fun c => if isNameChar c then c else '_')

/-- The name of the function of a program. -/
def entrypoint (p : Program) : String :=
  entrypointOf p.ruleId

/-- **The header**, which names the rule. -/
def header (p : Program) : String :=
  "\n".intercalate
    [s!"# Rule: {Text.quote p.ruleId}", s!"# Name: {Text.quote p.ruleName}",
      s!"# Fingerprint: {p.fingerprint}", s!"# Registry version: {p.version}"]

/-- The declaration of an input. -/
def inputLine (s : Seed) : String :=
  s!"({Text.quote s.name}, {Text.quote s.type.name}, {(Value.bool s.mandatory).inspect}, " ++
    s!"{s.default.literalText}),"

/-- **The declarations** of the inputs, the bound and the name of the function. -/
def declarations (p : Program) : String :=
  "\n".intercalate
    (["INPUT_PARAMS = ("] ++ indented 1 (p.inputs.map inputLine) ++
      [")", s!"STEP_LIMIT = {p.limit}", s!"__all__ = [{Text.quote p.entrypoint}]"])

/-- The wording of the error of a run that takes too many steps, up to their number. -/
def limitText (ruleId : String) : String :=
  s!"Rule {ruleId} exceeded "

/-- The wording of the error of a run that ends without an outcome. -/
def incompleteText (ruleId : String) : String :=
  s!"Rule {ruleId} finished without reaching an output step"

/-- The lines of the loop of a program. -/
def loopLines (p : Program) : List String :=
  ["executed += 1", "if executed > STEP_LIMIT:",
    s!"    raise StepLimitError({Text.quote (limitText p.ruleId)} + str(STEP_LIMIT) + ' steps')"] ++
    blockLines p.blocks ++
    ["else:", "    raise RuleInternalError('Unknown step ' + repr(step))"]

/-- **The function** of a program, with its last line ended. -/
def function (p : Program) : String :=
  "\n".intercalate
    ([s!"def {p.entrypoint}(input_data):"] ++
      indented 1
        (["try:"] ++
          indented 1
            (["context = seed_context(INPUT_PARAMS, input_data or \x7b\x7d)",
              s!"step = {Text.quote p.entry}", "executed = 0", "while step is not None:"] ++
              indented 1 p.loopLines ++
              [s!"raise RuleInternalError({Text.quote (incompleteText p.ruleId)})"]) ++
          ["except RuleValueError as exc:", "    return fail(exc.code, exc.message)"])) ++ "\n"

/-- **The text of a program**: its parts, with two blank lines between them. -/
def text (p : Program) : String :=
  "\n\n\n".intercalate [p.header, p.declarations, p.function]

end Program

end RuleFlow

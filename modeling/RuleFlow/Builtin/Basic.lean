import RuleFlow.Builtin.OnDate
import RuleFlow.Builtin.OnNumber
import RuleFlow.Builtin.OnText
import RuleFlow.Builtin.OnValue

/-!
# Built-in functions

The closed set of functions that rules call.

* `RuleFlow.Builtin` enumerates them, and `RuleFlow.Builtin.name` is the name of each in emitted
  programs.
* `RuleFlow.Builtin.operation` is what each does, with its parameters.
* `RuleFlow.Builtin.invoke` calls one: every fault becomes a failure.
-/

namespace RuleFlow

/-- **The built-in functions.** -/
inductive Builtin where
  /-- Every occurrence of a text replaced. -/
  | findReplace
  /-- A piece of a text. -/
  | substring
  /-- A text in upper case. -/
  | upper
  /-- A text in lower case. -/
  | lower
  /-- A text without white space at its ends. -/
  | trim
  /-- Whether a text contains another. -/
  | contains
  /-- The number of characters of a text. -/
  | length
  /-- A text filled up on the left. -/
  | padLeft
  /-- A text filled up on the right. -/
  | padRight
  /-- Every match of a pattern replaced. -/
  | replacePattern
  /-- The pieces of a text between separators. -/
  | split
  /-- Whether a text starts with another. -/
  | startsWith
  /-- Whether a text ends with another. -/
  | endsWith
  /-- The place of a text in another. -/
  | indexOf
  /-- Two or three texts joined. -/
  | concat
  /-- A text some times over. -/
  | repeatText
  /-- A text backwards. -/
  | reverse
  /-- Whether a pattern matches in a text. -/
  | matchesPattern
  /-- A text with its first character in upper case. -/
  | capitalize
  /-- A text without white space. -/
  | removeSpaces
  /-- The sum of two numbers. -/
  | add
  /-- The difference of two numbers. -/
  | subtract
  /-- The product of two numbers. -/
  | multiply
  /-- The quotient of two numbers. -/
  | divide
  /-- The remainder of two numbers. -/
  | modulo
  /-- A power of a number. -/
  | power
  /-- The square root of a number. -/
  | sqrt
  /-- The magnitude of a number. -/
  | abs
  /-- The nearest whole number. -/
  | round
  /-- The greatest whole number below a number. -/
  | floor
  /-- The least whole number above a number. -/
  | ceil
  /-- The larger of two numbers. -/
  | max
  /-- The smaller of two numbers. -/
  | min
  /-- The text of a number with a fixed number of places. -/
  | toFixed
  /-- A date some months later. -/
  | addMonths
  /-- The text of a date on a label. -/
  | formatLabel
  /-- A date some days later. -/
  | addDays
  /-- A date some years later. -/
  | addYears
  /-- The ISO text of a date. -/
  | formatDate
  /-- The year of a date. -/
  | year
  /-- The month of a date. -/
  | month
  /-- The day of the month of a date. -/
  | day
  /-- The number of days between two dates. -/
  | diffDays
  /-- Whether a value is a date. -/
  | isValidDate
  /-- Whether a value is nothing or the empty text. -/
  | isEmpty
  /-- Whether a value is nothing. -/
  | isNull
  /-- Whether a value is a number. -/
  | isNumber
  /-- Whether a value is a text. -/
  | isString
  /-- Whether a value is a truth value. -/
  | isBoolean
  /-- The text of a value. -/
  | toText
  /-- The number of a value. -/
  | toNumber
  /-- The truth of a value. -/
  | toBoolean
  /-- A value, or another in place of nothing. -/
  | default
  /-- Whether two values are equal. -/
  | equals
  /-- Whether two values are different. -/
  | notEquals
  /-- Whether the first of two numbers is greater. -/
  | greaterThan
  /-- Whether the first of two numbers is less. -/
  | lessThan
  /-- The conjunction of two truth values. -/
  | and
  /-- The disjunction of two truth values. -/
  | or
  /-- The negation of a truth value. -/
  | not
deriving DecidableEq, Repr

/-! ### Operations -/

/-- **What a function does** with its arguments, beside the names of its parameters. -/
inductive Operation where
  /-- A function of one value. -/
  | unary (parameter : String) (run : Value → Answer)
  /-- A function of two values. -/
  | binary (first second : String) (run : Value → Value → Answer)
  /-- A function of three values. -/
  | ternary (first second third : String) (run : Value → Value → Value → Answer)
  /-- A function of three values, the last of which may be left out. -/
  | optionalThird (first second third : String) (run : Value → Value → Value → Answer)

namespace Operation

/-- The names of the parameters. -/
def parameters : Operation → List String
  | .unary p _ => [p]
  | .binary p q _ => [p, q]
  | .ternary p q r _ => [p, q, r]
  | .optionalThird p q r _ => [p, q, r]

/-- The number of parameters that have to be given. -/
def required : Operation → Nat
  | .unary .. => 1
  | .binary .. => 2
  | .ternary .. => 3
  | .optionalThird .. => 2

/-- The fault of a call with the wrong number of arguments. -/
def arityFault (op : Operation) (name : String) (given : Nat) : Fault :=
  if op.parameters.length < given then
    .tooManyArguments name op.required op.parameters.length given
  else .missingArguments name ((op.parameters.take op.required).drop given)

/-- **Applying an operation** to arguments in the order of its parameters. -/
def apply (op : Operation) (name : String) (args : List Value) : Answer :=
  match op, args with
  | .unary _ run, [u] => run u
  | .binary _ _ run, [u, v] => run u v
  | .ternary _ _ _ run, [u, v, w] => run u v w
  | .optionalThird _ _ _ run, [u, v] => run u v .null
  | .optionalThird _ _ _ run, [u, v, w] => run u v w
  | op, args => .error (op.arityFault name args.length)

end Operation

namespace Builtin

/-- **The name of a function** in emitted programs. -/
def name : Builtin → String
  | .findReplace => "string_find_replace"
  | .substring => "sub_string"
  | .upper => "string_upper"
  | .lower => "string_lower"
  | .trim => "string_trim"
  | .contains => "string_contains"
  | .length => "string_length"
  | .padLeft => "string_pad_left"
  | .padRight => "string_pad_right"
  | .replacePattern => "string_regex_replace"
  | .split => "string_split"
  | .startsWith => "string_starts_with"
  | .endsWith => "string_ends_with"
  | .indexOf => "string_index_of"
  | .concat => "string_concat"
  | .repeatText => "string_repeat"
  | .reverse => "string_reverse"
  | .matchesPattern => "string_match"
  | .capitalize => "string_capitalize"
  | .removeSpaces => "string_remove_spaces"
  | .add => "num_add"
  | .subtract => "num_subtract"
  | .multiply => "num_multiply"
  | .divide => "num_divide"
  | .modulo => "num_modulo"
  | .power => "num_power"
  | .sqrt => "num_sqrt"
  | .abs => "num_abs"
  | .round => "num_round"
  | .floor => "num_floor"
  | .ceil => "num_ceil"
  | .max => "num_max"
  | .min => "num_min"
  | .toFixed => "num_to_fixed"
  | .addMonths => "date_add_months"
  | .formatLabel => "format_date_cn"
  | .addDays => "date_add_days"
  | .addYears => "date_add_years"
  | .formatDate => "date_format"
  | .year => "date_get_year"
  | .month => "date_get_month"
  | .day => "date_get_day"
  | .diffDays => "date_diff_days"
  | .isValidDate => "date_is_valid"
  | .isEmpty => "value_is_empty"
  | .isNull => "value_is_null"
  | .isNumber => "value_is_number"
  | .isString => "value_is_string"
  | .isBoolean => "value_is_boolean"
  | .toText => "to_string"
  | .toNumber => "to_number"
  | .toBoolean => "to_boolean"
  | .default => "default_value"
  | .equals => "equals"
  | .notEquals => "not_equals"
  | .greaterThan => "greater_than"
  | .lessThan => "less_than"
  | .and => "logical_and"
  | .or => "logical_or"
  | .not => "logical_not"

/-- **What each function does.** -/
def operation : Builtin → Operation
  | .findReplace => .ternary "text" "find" "replace_with" OnText.findReplace
  | .substring => .optionalThird "input_text" "length" "start" OnText.substring
  | .upper => .unary "text" OnText.upper
  | .lower => .unary "text" OnText.lower
  | .trim => .unary "text" OnText.trim
  | .contains => .binary "text" "pattern" OnText.contains
  | .length => .unary "text" OnText.length
  | .padLeft => .ternary "text" "length" "char" OnText.padLeft
  | .padRight => .ternary "text" "length" "char" OnText.padRight
  | .replacePattern => .ternary "text" "pattern" "replace_with" OnText.replacePattern
  | .split => .binary "text" "separator" OnText.split
  | .startsWith => .binary "text" "prefix" OnText.startsWith
  | .endsWith => .binary "text" "suffix" OnText.endsWith
  | .indexOf => .binary "text" "search_value" OnText.indexOf
  | .concat => .optionalThird "str1" "str2" "str3" OnText.concat
  | .repeatText => .binary "text" "count" OnText.repeatText
  | .reverse => .unary "text" OnText.reverse
  | .matchesPattern => .binary "text" "pattern" OnText.matchesPattern
  | .capitalize => .unary "text" OnText.capitalize
  | .removeSpaces => .unary "text" OnText.removeSpaces
  | .add => .binary "a" "b" OnNumber.add
  | .subtract => .binary "a" "b" OnNumber.subtract
  | .multiply => .binary "a" "b" OnNumber.multiply
  | .divide => .binary "a" "b" OnNumber.divide
  | .modulo => .binary "a" "b" OnNumber.modulo
  | .power => .binary "base" "exponent" OnNumber.power
  | .sqrt => .unary "num" OnNumber.sqrt
  | .abs => .unary "num" OnNumber.abs
  | .round => .unary "num" OnNumber.round
  | .floor => .unary "num" OnNumber.floor
  | .ceil => .unary "num" OnNumber.ceil
  | .max => .binary "a" "b" OnNumber.max
  | .min => .binary "a" "b" OnNumber.min
  | .toFixed => .binary "num" "decimals" OnNumber.toFixed
  | .addMonths => .binary "date_str" "months" OnDate.addMonths
  | .formatLabel => .unary "date_value" OnDate.formatLabel
  | .addDays => .binary "date_str" "days" OnDate.addDays
  | .addYears => .binary "date_str" "years" OnDate.addYears
  | .formatDate => .unary "date_value" OnDate.format
  | .year => .unary "date_value" OnDate.year
  | .month => .unary "date_value" OnDate.month
  | .day => .unary "date_value" OnDate.day
  | .diffDays => .binary "date1" "date2" OnDate.diffDays
  | .isValidDate => .unary "date_value" OnDate.isValid
  | .isEmpty => .unary "value" OnValue.isEmpty
  | .isNull => .unary "value" OnValue.isNull
  | .isNumber => .unary "value" OnValue.isNumber
  | .isString => .unary "value" OnValue.isString
  | .isBoolean => .unary "value" OnValue.isBoolean
  | .toText => .unary "value" OnValue.toText
  | .toNumber => .unary "value" OnValue.toNumber
  | .toBoolean => .unary "value" OnValue.toBoolean
  | .default => .binary "value" "default_val" OnValue.default
  | .equals => .binary "value1" "value2" OnValue.equals
  | .notEquals => .binary "value1" "value2" OnValue.notEquals
  | .greaterThan => .binary "value1" "value2" OnValue.greaterThan
  | .lessThan => .binary "value1" "value2" OnValue.lessThan
  | .and => .binary "value1" "value2" OnValue.and
  | .or => .binary "value1" "value2" OnValue.or
  | .not => .unary "value" OnValue.not

/-- A call whose faults are not caught. -/
def apply (b : Builtin) (args : List Value) : Answer :=
  b.operation.apply b.name args

/-- **A call.** Every fault becomes a failure. -/
def invoke (b : Builtin) (args : List Value) : Outcome :=
  match b.apply args with
  | .ok outcome => outcome
  | .error f => .failure FailureCode.unexpectedError f.message

end Builtin

end RuleFlow

import RuleFlow.Number.Decimal.Context
import RuleFlow.Pattern.Error
import RuleFlow.Value.Display

/-!
# Faults

What a computation on values can run into.

* `RuleFlow.addressSpace` bounds the size of texts and whole numbers.
* `RuleFlow.Fault` lists the causes.
* `RuleFlow.Fault.message` words them, and `RuleFlow.Fault.className` sorts them.
-/

namespace RuleFlow

open Number

/-- **The bytes that a process can address**, on processors that give it 47 bits of an address. What
takes more of them is out of memory on any such machine. What takes fewer may be out of memory too,
but that is for the machine to say, and here it is not. -/
def addressSpace : Nat := 140737488355328

/-- **What a computation on values can run into.** -/
inductive Fault where
  /-- A value of a kind that no number can be made of. -/
  | notNumeric (typeName : String)
  /-- A text that is no numeral. -/
  | notNumeral (v : Value)
  /-- A number without a finite value. -/
  | notFinite (v : Value)
  /-- A value that is no truth value and does not spell one. -/
  | notBoolean (v : Value)
  /-- A value that is no text. -/
  | notText (typeName : String)
  /-- A value of a kind that no date can be made of. -/
  | notDate (typeName : String)
  /-- A type name that no type has. -/
  | unknownType (name : String)
  /-- A calendar error. -/
  | calendar (e : Calendar.Error)
  /-- A signal of decimal arithmetic. -/
  | arithmetic (s : Decimal.Signal)
  /-- The whole part of an infinite double. -/
  | infiniteDouble
  /-- The whole part of a double that is not a number. -/
  | nanDouble
  /-- The whole part of an infinite decimal. -/
  | infiniteDecimal
  /-- The whole part of a decimal that is not a number. -/
  | nanDecimal
  /-- A whole number beyond the range of doubles. -/
  | beyondDouble
  /-- A sum of a decimal and a double. -/
  | mixedSum (left right : String)
  /-- An order between values that have none. -/
  | unordered (left right : String)
  /-- A whole number too long to count with. -/
  | countTooLong
  /-- A repetition whose length is too long to count with. -/
  | repeatTooLong
  /-- A text or a whole number that no memory holds. -/
  | outOfMemory
  /-- A negative count. -/
  | negativeCount (v : Value)
  /-- A number of places outside its range. -/
  | placesRange
  /-- The difference of a moment with an offset and one without. -/
  | mixedOffsets
  /-- A search pattern that is refused. -/
  | pattern (pattern : List Char) (e : Pattern.Error)
  /-- A function called with too many arguments: the least and the greatest number, and the number
  given. -/
  | tooManyArguments (name : String) (least most given : Nat)
  /-- A function called without some of its arguments. -/
  | missingArguments (name : String) (parameters : List String)
  /-- A text that is no whole number. -/
  | notWhole (s : String)
  /-- A text of too many digits to be read as a whole number, with their number. -/
  | numeralTooLong (digits : Nat)
  /-- A value of a kind that no whole number can be made of. -/
  | noWholeOf (className : String)
  /-- A function name that is taken. -/
  | alreadyRegistered (name : String)
  /-- A value that is no execution result. -/
  | notAResult (v : Value)
  /-- A failure result without its code. -/
  | noFailureCode (v : Value)
  /-- A name that stands for nothing. -/
  | unbound (name : String)
  /-- A key that a table does not have. -/
  | noKey (key : String)
  /-- A decimal that must not be computed with. -/
  | signalingNan
  /-- A character code outside its range. -/
  | charRange
  /-- A template that ends inside a place. -/
  | incompleteTemplate
  /-- A template that ends inside the name of a place. -/
  | incompleteKey
  /-- A place of a template with a letter that says nothing. -/
  | unknownPlace (letter : Char) (index : Nat)
  /-- A place of a template that is too wide. -/
  | widthTooBig
  /-- A place of a template with too many digits. -/
  | precisionTooBig
  /-- A rate outside its range. -/
  | rateRange
  /-- A whole number of too many digits to be written. -/
  | tooManyDigits
  /-- A text that is no expression. -/
  | unreadable
  /-- A number that a document has no form for. -/
  | noDocumentForm
  /-- A value used as what its kind is not. -/
  | misused (message : String)
  /-- An attribute that the kind of a value does not have. -/
  | noAttribute (message : String)
deriving Repr, Inhabited

namespace Fault

/-- The name of a signal of decimal arithmetic. -/
def signalName : Decimal.Signal → String
  | .invalidOperation => "InvalidOperation"
  | .divisionUndefined => "DivisionUndefined"
  | .divisionImpossible => "DivisionImpossible"
  | .divisionByZero => "DivisionByZero"
  | .overflow => "Overflow"

/-- Names in quotes, joined by commas and an `and`. -/
def nameList (names : List String) : String :=
  let quoted := names.map fun n => s!"'{n}'"
  match quoted.reverse with
  | [] => ""
  | [only] => only
  | [last, first] => s!"{first} and {last}"
  | last :: before => ", ".intercalate before.reverse ++ s!", and {last}"

/-- **The wording of a fault.** -/
def message : Fault → String
  | .notNumeric name => s!"{name} is not a number"
  | .notNumeral v => s!"{v.inspect} is not a number"
  | .notFinite v => s!"{v.inspect} is not a finite number"
  | .notBoolean v => s!"{v.inspect} is not 'true' or 'false'"
  | .notText name => s!"{name} is not a String"
  | .notDate name => s!"{name} is not an ISO-8601 date"
  | .unknownType name => s!"Unknown data type {Text.quote name}"
  | .calendar e => e.message
  | .arithmetic s => s!"[<class 'decimal.{signalName s}'>]"
  | .infiniteDouble => "cannot convert float infinity to integer"
  | .nanDouble => "cannot convert float NaN to integer"
  | .infiniteDecimal => "cannot convert Infinity to integer"
  | .nanDecimal => "cannot convert NaN to integer"
  | .beyondDouble => "int too large to convert to float"
  | .mixedSum left right => s!"unsupported operand type(s) for +: '{left}' and '{right}'"
  | .unordered left right => s!"'<' not supported between instances of '{left}' and '{right}'"
  | .countTooLong => "cannot fit 'int' into an index-sized integer"
  | .repeatTooLong => "repeated string is too long"
  | .outOfMemory => ""
  | .negativeCount v => s!"Invalid count value: {v.display}"
  | .placesRange => "toFixed() digits argument must be between 0 and 100"
  | .mixedOffsets => "can't subtract offset-naive and offset-aware datetimes"
  | .pattern cs e => e.message cs
  | .tooManyArguments name least most given =>
    let takes := if least = most then toString most else s!"from {least} to {most}"
    let noun := if least = 1 ∧ most = 1 then "argument" else "arguments"
    let verb := if given = 1 then "was" else "were"
    s!"{name}() takes {takes} positional {noun} but {given} {verb} given"
  | .missingArguments name parameters =>
    let noun := if parameters.length = 1 then "argument" else "arguments"
    s!"{name}() missing {parameters.length} required positional {noun}: {nameList parameters}"
  | .notWhole s =>
    let shown := String.ofList ((Text.quote s).toList.take 200)
    s!"invalid literal for int() with base 10: {shown}"
  | .numeralTooLong digits =>
    s!"Exceeds the limit (4300 digits) for integer string conversion: value has {digits} " ++
      "digits; use sys.set_int_max_str_digits() to increase the limit"
  | .noWholeOf name =>
    s!"int() argument must be a string, a bytes-like object or a real number, not '{name}'"
  | .alreadyRegistered name => s!"Function '{name}' is already registered"
  | .notAResult v => s!"Not an execution result: {v.inspect}"
  | .noFailureCode v => s!"Failure result without error code: {v.inspect}"
  | .unbound name =>
    s!"cannot access local variable '{name}' where it is not associated with a value"
  | .noKey key => Text.quote key
  | .signalingNan => "cannot convert signaling NaN to float"
  | .charRange => "%c arg not in range(0x110000)"
  | .widthTooBig => "width too big"
  | .precisionTooBig => "precision too big"
  | .rateRange => "Probability must be in range [0.0, 1.0]."
  | .tooManyDigits =>
    "Exceeds the limit (4300 digits) for integer string conversion; " ++
      "use sys.set_int_max_str_digits() to increase the limit"
  | .unreadable => "invalid syntax"
  | .noDocumentForm => "Out of range float values are not JSON compliant"
  | .incompleteTemplate => "incomplete format"
  | .incompleteKey => "incomplete format key"
  | .unknownPlace letter index =>
    let shown := if 31 ≤ letter.toNat ∧ letter.toNat < 127 then letter else '?'
    let code := String.ofList (Nat.toDigits 16 letter.toNat)
    s!"unsupported format character '{shown}' (0x{code}) at index {index}"
  | .misused m => m
  | .noAttribute m => m

/-- **The kind of a fault.** -/
def className : Fault → String
  | .notNumeric _ | .notNumeral _ | .notFinite _ | .notBoolean _ | .notText _ | .notDate _
  | .unknownType _ | .nanDouble | .nanDecimal | .negativeCount _ | .placesRange | .notWhole _
  | .numeralTooLong _ | .alreadyRegistered _ | .notAResult _ | .noFailureCode _ | .signalingNan
  | .incompleteTemplate | .incompleteKey | .unknownPlace .. | .widthTooBig | .precisionTooBig
  | .rateRange | .tooManyDigits | .noDocumentForm => "ValueError"
  | .calendar e => if e.isOverflow then "OverflowError" else "ValueError"
  | .arithmetic .overflow => "Overflow"
  | .arithmetic .divisionByZero => "DivisionByZero"
  | .arithmetic _ => "InvalidOperation"
  | .infiniteDouble | .infiniteDecimal | .beyondDouble | .countTooLong | .repeatTooLong
  | .charRange => "OverflowError"
  | .outOfMemory => "MemoryError"
  | .mixedSum .. | .unordered .. | .mixedOffsets | .tooManyArguments .. | .missingArguments ..
  | .noWholeOf _ | .misused _ => "TypeError"
  | .pattern _ .hugeRepeat => "OverflowError"
  | .pattern _ .clashingClasses => "ValueError"
  | .pattern .. => "error"
  | .unreadable => "SyntaxError"
  | .unbound _ => "UnboundLocalError"
  | .noKey _ => "KeyError"
  | .noAttribute _ => "AttributeError"

/-- Whether a fault is one of the ordinary faults of values, which callers turn into messages of
their own. -/
def isValueFault (f : Fault) : Bool :=
  f.className == "ValueError"

end Fault

end RuleFlow

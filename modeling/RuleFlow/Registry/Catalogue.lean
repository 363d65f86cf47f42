import RuleFlow.Registry.Basic

/-!
# The standard catalogue

The functions that rules are written with, unless another registry is given.

* `RuleFlow.Catalogue.texts`, `numbers`, `dates` and `values` are its four parts.
* `RuleFlow.Catalogue.standard` is the whole.
-/

namespace RuleFlow

namespace Parameter

/-- A parameter without a default. -/
def of (name label : String) (type : DataType) : Parameter :=
  { name, label, type }

/-- A parameter whose argument may be left out. -/
def optional (name label : String) (type : DataType) (default : Value) : Parameter :=
  { name, label, type, mandatory := false, default }

end Parameter

namespace Catalogue

/-- The version of the catalogue. -/
def version : String := "2024.1"

/-- A function of the catalogue. -/
def entry (id : Int) (name label description : String) (category : Category)
    (parameters : List Parameter) (returnType : DataType) (builtin : Builtin)
    (version : String := "v1.0") : Entry :=
  { id, name, label, description, version, category, parameters, returnType, builtin }

/-- **Functions on texts.** Splitting gives a list, which has no type of its own. -/
def texts : List Entry :=
  [entry 2000 "STRING_FIND_REPLACE" "Find and Replace"
      "Finds and replaces text with another text." .str
      [.of "text" "Text" .string,
        .of "find" "Find" .string,
        .of "replaceWith" "Replace With" .string]
      .string .findReplace,
    entry 2001 "STRING_REPLACE_ALL" "Replace All"
      "Replaces all occurrences of a substring inside the string." .str
      [.of "text" "Text" .string,
        .of "find" "Find" .string,
        .of "replaceWith" "Replace With" .string]
      .string .findReplace,
    entry 2002 "SUB_STRING" "Substring"
      "Returns substring from start index with length." .str
      [.of "inputText" "Input Text" .string,
        .of "length" "Length" .number,
        .optional "start" "Start" .number (.int 0)]
      .string .substring "v1.1",
    entry 2003 "STRING_UPPER" "To Uppercase"
      "Converts text to uppercase." .str
      [.of "text" "Text" .string]
      .string .upper,
    entry 2004 "STRING_LOWER" "To Lowercase"
      "Converts text to lowercase." .str
      [.of "text" "Text" .string]
      .string .lower,
    entry 2005 "STRING_TRIM" "Trim"
      "Removes leading and trailing whitespace." .str
      [.of "text" "Text" .string]
      .string .trim,
    entry 2006 "STRING_CONTAINS" "Contains"
      "Checks whether text contains a substring." .str
      [.of "text" "Text" .string, .of "pattern" "Pattern" .string]
      .boolean .contains,
    entry 2007 "STRING_LENGTH" "String Length"
      "Returns length of string." .str
      [.of "text" "Text" .string]
      .number .length,
    entry 2008 "STRING_PAD_LEFT" "Pad Left"
      "Pads string on left side with given character." .str
      [.of "text" "Text" .string,
        .of "length" "Length" .number,
        .of "char" "Character" .string]
      .string .padLeft,
    entry 2009 "STRING_PAD_RIGHT" "Pad Right"
      "Pads string on right side with given character." .str
      [.of "text" "Text" .string,
        .of "length" "Length" .number,
        .of "char" "Character" .string]
      .string .padRight,
    entry 2010 "STRING_REGEX_REPLACE" "Replace by Regex"
      "Replaces text using regex pattern." .str
      [.of "text" "Text" .string,
        .of "pattern" "Pattern" .string,
        .of "replaceWith" "Replace With" .string]
      .string .replacePattern,
    entry 2011 "STRING_SPLIT" "Split String"
      "Splits a string into an array by separator." .str
      [.of "text" "Text" .string, .of "separator" "Separator" .string]
      .any .split,
    entry 2012 "STRING_STARTS_WITH" "Starts With"
      "Checks if string starts with specified prefix." .str
      [.of "text" "Text" .string, .of "prefix" "Prefix" .string]
      .boolean .startsWith,
    entry 2013 "STRING_ENDS_WITH" "Ends With"
      "Checks if string ends with specified suffix." .str
      [.of "text" "Text" .string, .of "suffix" "Suffix" .string]
      .boolean .endsWith,
    entry 2014 "STRING_INDEX_OF" "Index Of"
      "Returns the index of first occurrence of substring." .str
      [.of "text" "Text" .string, .of "searchValue" "Search Value" .string]
      .number .indexOf,
    entry 2015 "STRING_CONCAT" "Concat Strings"
      "Concatenates multiple strings together." .str
      [.of "str1" "String 1" .string,
        .of "str2" "String 2" .string,
        .optional "str3" "String 3" .string .null]
      .string .concat,
    entry 2016 "STRING_REPEAT" "Repeat String"
      "Repeats a string specified number of times." .str
      [.of "text" "Text" .string, .of "count" "Count" .number]
      .string .repeatText,
    entry 2017 "STRING_REVERSE" "Reverse String"
      "Reverses the characters in a string." .str
      [.of "text" "Text" .string]
      .string .reverse,
    entry 2018 "STRING_MATCH" "Match Regex"
      "Tests if string matches a regex pattern." .str
      [.of "text" "Text" .string, .of "pattern" "Pattern" .string]
      .boolean .matchesPattern,
    entry 2019 "STRING_CAPITALIZE" "Capitalize First"
      "Capitalizes the first letter of a string." .str
      [.of "text" "Text" .string]
      .string .capitalize,
    entry 2020 "STRING_REMOVE_SPACES" "Remove Whitespace"
      "Removes all whitespace from a string." .str
      [.of "text" "Text" .string]
      .string .removeSpaces]

/-- **Functions on numbers.** -/
def numbers : List Entry :=
  [entry 3001 "NUM_ADD" "Add Numbers"
      "Adds two numbers together." .num
      [.of "a" "Number A" .number, .of "b" "Number B" .number]
      .number .add,
    entry 3001 "ADD" "Add Numbers"
      "Adds two numbers together. Alias of NUM_ADD." .num
      [.of "a" "Number A" .number, .of "b" "Number B" .number]
      .number .add,
    entry 3002 "NUM_SUBTRACT" "Subtract Numbers"
      "Subtracts second number from first number." .num
      [.of "a" "Number A" .number, .of "b" "Number B" .number]
      .number .subtract,
    entry 3003 "NUM_MULTIPLY" "Multiply Numbers"
      "Multiplies two numbers together." .num
      [.of "a" "Number A" .number, .of "b" "Number B" .number]
      .number .multiply,
    entry 3004 "NUM_DIVIDE" "Divide Numbers"
      "Divides first number by second number." .num
      [.of "a" "Number A" .number, .of "b" "Number B" .number]
      .number .divide,
    entry 3005 "NUM_MODULO" "Modulo"
      "Returns remainder of division." .num
      [.of "a" "Number A" .number, .of "b" "Number B" .number]
      .number .modulo,
    entry 3006 "NUM_POWER" "Power"
      "Raises first number to the power of second number." .num
      [.of "base" "Base" .number, .of "exponent" "Exponent" .number]
      .number .power,
    entry 3007 "NUM_SQRT" "Square Root"
      "Returns square root of a number." .num
      [.of "num" "Number" .number]
      .number .sqrt,
    entry 3008 "NUM_ABS" "Absolute Value"
      "Returns absolute value of a number." .num
      [.of "num" "Number" .number]
      .number .abs,
    entry 3009 "NUM_ROUND" "Round Number"
      "Rounds a number to nearest integer." .num
      [.of "num" "Number" .number]
      .number .round,
    entry 3010 "NUM_FLOOR" "Floor"
      "Rounds down to nearest integer." .num
      [.of "num" "Number" .number]
      .number .floor,
    entry 3011 "NUM_CEIL" "Ceiling"
      "Rounds up to nearest integer." .num
      [.of "num" "Number" .number]
      .number .ceil,
    entry 3012 "NUM_MAX" "Maximum"
      "Returns the larger of two numbers." .num
      [.of "a" "Number A" .number, .of "b" "Number B" .number]
      .number .max,
    entry 3013 "NUM_MIN" "Minimum"
      "Returns the smaller of two numbers." .num
      [.of "a" "Number A" .number, .of "b" "Number B" .number]
      .number .min,
    entry 3015 "NUM_TO_FIXED" "To Fixed Decimal"
      "Formats number to fixed decimal places." .num
      [.of "num" "Number" .number, .of "decimals" "Decimals" .number]
      .string .toFixed]

/-- **Functions on dates.** -/
def dates : List Entry :=
  [entry 4001 "DATE_ADD_MONTHS" "Add Months"
      "Adds specified number of months to a date." .date
      [.of "dateStr" "Date String" .date, .of "months" "Months" .number]
      .date .addMonths,
    entry 4002 "FORMAT_DATE_CN" "Format Chinese Date"
      "Formats date in Chinese format (生产日期：YYYY年MM月DD日)." .date
      [.of "dateValue" "Date Value" .date]
      .string .formatLabel,
    entry 4003 "DATE_ADD_DAYS" "Add Days"
      "Adds specified number of days to a date." .date
      [.of "dateStr" "Date String" .date, .of "days" "Days" .number]
      .date .addDays,
    entry 4004 "DATE_ADD_YEARS" "Add Years"
      "Adds specified number of years to a date." .date
      [.of "dateStr" "Date String" .date, .of "years" "Years" .number]
      .date .addYears,
    entry 4005 "DATE_FORMAT" "Format Date"
      "Formats date to YYYY-MM-DD format." .date
      [.of "dateValue" "Date Value" .date]
      .string .formatDate,
    entry 4006 "DATE_GET_YEAR" "Get Year"
      "Extracts year from date." .date
      [.of "dateValue" "Date Value" .date]
      .number .year,
    entry 4007 "DATE_GET_MONTH" "Get Month"
      "Extracts month from date (1-12)." .date
      [.of "dateValue" "Date Value" .date]
      .number .month,
    entry 4008 "DATE_GET_DAY" "Get Day"
      "Extracts day from date." .date
      [.of "dateValue" "Date Value" .date]
      .number .day,
    entry 4009 "DATE_DIFF_DAYS" "Date Difference in Days"
      "Calculates difference between two dates in days." .date
      [.of "date1" "Date 1" .date, .of "date2" "Date 2" .date]
      .number .diffDays,
    entry 4011 "DATE_IS_VALID" "Is Valid Date"
      "Checks if value is a valid date." .date
      [.of "dateValue" "Date Value" .any]
      .boolean .isValidDate]

/-- **Functions on values of any kind.** -/
def values : List Entry :=
  [entry 5001 "IS_EMPTY" "Is Empty"
      "Checks if a value is empty (null, undefined, or empty string)." .util
      [.of "value" "Value" .any]
      .boolean .isEmpty,
    entry 5002 "IS_NULL" "Is Null"
      "Checks if a value is null." .util
      [.of "value" "Value" .any]
      .boolean .isNull,
    entry 5003 "IS_NUMBER" "Is Number"
      "Checks if a value is a number." .util
      [.of "value" "Value" .any]
      .boolean .isNumber,
    entry 5004 "IS_STRING" "Is String"
      "Checks if a value is a string." .util
      [.of "value" "Value" .any]
      .boolean .isString,
    entry 5005 "IS_BOOLEAN" "Is Boolean"
      "Checks if a value is a boolean." .util
      [.of "value" "Value" .any]
      .boolean .isBoolean,
    entry 5006 "TO_STRING" "To String"
      "Converts any value to string." .util
      [.of "value" "Value" .any]
      .string .toText,
    entry 5007 "TO_NUMBER" "To Number"
      "Converts value to number." .util
      [.of "value" "Value" .any]
      .number .toNumber,
    entry 5008 "TO_BOOLEAN" "To Boolean"
      "Converts value to boolean." .util
      [.of "value" "Value" .any]
      .boolean .toBoolean,
    entry 5009 "DEFAULT_VALUE" "Default Value"
      "Returns default value if input is empty/null." .util
      [.of "value" "Value" .any, .of "defaultVal" "Default Value" .any]
      .any .default,
    entry 5010 "EQUALS" "Equals"
      "Checks if two values are equal." .util
      [.of "value1" "Value 1" .any, .of "value2" "Value 2" .any]
      .boolean .equals,
    entry 5011 "NOT_EQUALS" "Not Equals"
      "Checks if two values are not equal." .util
      [.of "value1" "Value 1" .any, .of "value2" "Value 2" .any]
      .boolean .notEquals,
    entry 5012 "GREATER_THAN" "Greater Than"
      "Checks if first value is greater than second." .util
      [.of "value1" "Value 1" .number, .of "value2" "Value 2" .number]
      .boolean .greaterThan,
    entry 5013 "LESS_THAN" "Less Than"
      "Checks if first value is less than second." .util
      [.of "value1" "Value 1" .number, .of "value2" "Value 2" .number]
      .boolean .lessThan,
    entry 5014 "AND" "Logical AND"
      "Returns true if both values are true." .util
      [.of "value1" "Value 1" .boolean, .of "value2" "Value 2" .boolean]
      .boolean .and,
    entry 5015 "OR" "Logical OR"
      "Returns true if at least one value is true." .util
      [.of "value1" "Value 1" .boolean, .of "value2" "Value 2" .boolean]
      .boolean .or,
    entry 5016 "NOT" "Logical NOT"
      "Returns opposite boolean value." .util
      [.of "value" "Value" .boolean]
      .boolean .not]

/-- **The standard catalogue.** -/
def standard : Registry :=
  { version, entries := texts ++ numbers ++ dates ++ values }

end Catalogue

end RuleFlow

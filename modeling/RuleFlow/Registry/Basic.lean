import RuleFlow.Builtin.Basic
import RuleFlow.Rule.Error
import RuleFlow.Text.Case
import RuleFlow.Text.CodeRange

/-!
# Registries of functions

A registry is a versioned catalogue of functions with distinct names, in the order in which they
were registered.

* `RuleFlow.Registry.register` adds a function and refuses a name that is taken.
* `RuleFlow.Registry.get` looks a function up by its name, or by its number.
* `RuleFlow.Registry.listed` lists the functions by number and name, `RuleFlow.Registry.tally`
  counts them by category.
-/

namespace RuleFlow

/-! ### Entries -/

/-- **A parameter** of a function. -/
structure Parameter where
  /-- The name. -/
  name : String
  /-- The name that is shown. -/
  label : String
  /-- The type. -/
  type : DataType
  /-- Whether an argument should be given. -/
  mandatory : Bool := true
  /-- The value of an argument that is left out, if not nothing. -/
  default : Value := .null
deriving Repr

namespace Parameter

/-- **The value of an argument that is left out.** -/
def defaultValue (p : Parameter) : Except Fault Value :=
  if p.default.isNull then .ok p.type.empty else p.default.coerce p.type

/-- The description of a parameter. -/
def describe (p : Parameter) : Value :=
  .record [("name", .text p.name), ("label", .text p.label), ("data_type", .text p.type.name),
    ("mandatory", .bool p.mandatory), ("default", p.default)]

end Parameter

/-- **A function of a registry.** -/
structure Entry where
  /-- The number. -/
  id : Int
  /-- The name. -/
  name : String
  /-- The name that is shown. -/
  label : String
  /-- What the function does. -/
  description : String
  /-- The version. -/
  version : String
  /-- The category. -/
  category : Category
  /-- The parameters. -/
  parameters : List Parameter
  /-- The type of the result. -/
  returnType : DataType
  /-- What is called. -/
  builtin : Builtin
deriving Repr

namespace Entry

/-- The place of a parameter. -/
def parameterIndex? (f : Entry) (name : String) : Option Nat :=
  f.parameters.findIdx? fun p => p.name == name

/-- **The description of a function.** -/
def describe (f : Entry) : Value :=
  .record [("id", .int f.id), ("name", .text f.name), ("label", .text f.label),
    ("description", .text f.description), ("version", .text f.version),
    ("category", .text f.category.name),
    ("params", .list (f.parameters.map Parameter.describe)),
    ("return_type", .text f.returnType.name)]

/-- Whether a function comes before another in listings: by number, then by name. -/
def precedes (f g : Entry) : Bool :=
  decide (f.id < g.id) || (f.id == g.id && decide (f.name ≤ g.name))

/-- Whether a text occurs in what is shown of a function, in whatever case. -/
def mentions (f : Entry) (search : String) : Bool :=
  let needle := (Text.lower search).toList
  [f.name, f.label, f.description].any fun shown =>
    Text.occursIn needle (Text.lower shown).toList

end Entry

/-! ### Registries -/

/-- **A registry of functions.** -/
structure Registry where
  /-- The version. -/
  version : String
  /-- The functions, in the order of their registration. -/
  entries : List Entry := []

namespace Registry

/-- The function registered under a name. -/
def find? (r : Registry) (name : String) : Option Entry :=
  r.entries.find? fun f => f.name == name

/-- Whether a name is taken. -/
def has (r : Registry) (name : String) : Bool :=
  (r.find? name).isSome

/-- **Registration.** A name that is taken is refused. -/
def register (r : Registry) (f : Entry) : Except Fault Registry :=
  if r.has f.name then .error (.alreadyRegistered f.name)
  else .ok { r with entries := r.entries ++ [f] }

/-- A registry of functions, registered one after the other. -/
def ofEntries (version : String) (entries : List Entry) : Except Fault Registry :=
  entries.foldlM register { version }

/-- The first function with a number. -/
def withId? (r : Registry) (id : Int) : Option Entry :=
  r.entries.find? fun f => f.id == id

/-- **Looking a function up** by its name, or else by its number. Digits that form no numeral, or
too many of them, are a fault, unless there is no function to compare with. -/
def get (r : Registry) (name : String) : Except Fault (Option Entry) :=
  match r.find? name with
  | some f => .ok (some f)
  | none =>
    if Text.isDigitString name && !r.entries.isEmpty then
      (Value.wholeOfText name).map r.withId?
    else .ok none

/-- **The function of a name or number**, which has to be there. -/
def require (r : Registry) (name : String) : Except RuleError Entry :=
  match r.get name with
  | .ok (some f) => .ok f
  | .ok none => .error (.bind (.unknownFunction name r.version))
  | .error f => .error (.fault f)

/-- **Calling a function** of the registry. -/
def call (r : Registry) (name : String) (args : List Value) : Except RuleError Outcome := do
  return (← r.require name).builtin.invoke args

/-- **The functions in the order of listings**, of one category or all, and those alone that
mention a text, if it is not empty. -/
def listed (r : Registry) (category : Option Category) (search : Option String) : List Entry :=
  (r.entries.mergeSort Entry.precedes).filter fun f =>
    category.all (f.category == ·) && search.all fun s => s.isEmpty || f.mentions s

/-- The number of functions of a category. -/
def count (r : Registry) (category : Category) : Nat :=
  r.entries.countP fun f => f.category == category

/-- **The categories**, each described and with the number of its functions. -/
def tally (r : Registry) : List Value :=
  Category.all.map fun c =>
    .record [("id", .text c.name), ("name", .text c.title), ("description", .text c.description),
      ("count", .int (r.count c))]

end Registry

end RuleFlow

import RuleFlow.Proofs.Value.Conversion
import RuleFlow.Registry.Catalogue

/-!
# What functions return

A function of the catalogue declares the type of its result, and the checks of a rule rely on it.
The arguments are not what the parameters declare: a source of the type `any` fits everywhere, so a
function may come upon any values at all. Where it answers a value, the value is of the type that is
declared.

* `RuleFlow.Answer.Ensures` is a property of the value that an answer may hold. Its lemmas follow
  the combinators that functions are written with.
* `RuleFlow.Answer.Gives` is what is shown of an answer; a refusal or a fault gives every type.
* `RuleFlow.Builtin.resultType` is the type of what a function returns, and
  `RuleFlow.Builtin.ofType_of_invoke` that it does.
* `RuleFlow.Catalogue.ofType_of_invoke`: the catalogue declares these types.
-/

namespace RuleFlow

open Number Calendar

/-! ### Answers with a property -/

namespace Answer

variable {P : Value → Prop} {α : Type}

/-- **An answer ensures a property**: if it is a value, the value has the property. -/
def Ensures (P : Value → Prop) (a : Answer) : Prop :=
  ∀ v, a = .ok (.success v) → P v

theorem ensures_value {v : Value} (h : P v) : Ensures P (value v) := by
  intro w hw
  obtain rfl := Outcome.success.inj (Except.ok.inj hw)
  exact h

theorem ensures_refuse (message : String) : Ensures P (refuse message) :=
  fun _ hw => nomatch hw

theorem ensures_error (f : Fault) : Ensures P (.error f) :=
  fun _ hw => nomatch hw

theorem ensures_bind {x : Except Fault α} {f : α → Answer}
    (h : ∀ a, x = .ok a → Ensures P (f a)) : Ensures P (x >>= f) := by
  intro v hv
  obtain ⟨a, ha, hf⟩ := bind_eq_ok.mp hv
  exact h a ha v hf

theorem ensures_withText {parameter : String} {u : Value} {next : List Char → Answer}
    (h : ∀ cs, Ensures P (next cs)) : Ensures P (withText parameter u next) := by
  rw [withText.eq_def]
  split
  · exact h _
  · exact ensures_refuse _

theorem ensures_withNumber {parameter : String} {u : Value} {next : Answer}
    (h : Ensures P next) : Ensures P (withNumber parameter u next) := by
  rw [withNumber]
  split_ifs
  · exact h
  · exact ensures_refuse _

theorem ensures_withBool {parameter : String} {u : Value} {next : Bool → Answer}
    (h : ∀ b, Ensures P (next b)) : Ensures P (withBool parameter u next) := by
  rw [withBool.eq_def]
  split
  · exact h _
  · exact ensures_refuse _

theorem ensures_withDate {parameter : String} {u : Value} {next : Temporal → Answer}
    (h : ∀ t, Ensures P (next t)) : Ensures P (withDate parameter u next) := by
  rw [withDate]
  split
  · exact h _
  · exact ensures_refuse _

end Answer

/-! ### Answers of a type -/

/-- **An outcome carries a type**: if it is a success, its value is of the type. -/
def Outcome.Carries (t : DataType) : Outcome → Prop
  | .success v => v.OfType t
  | .failure .. => True

namespace Answer

variable {t : DataType} {α : Type}

/-- **An answer gives a type**: if it is a value, the value is of the type. -/
def Gives (t : DataType) (a : Answer) : Prop :=
  Ends a (Outcome.Carries t) fun _ => True

/-- **To give a type** is to ensure that the value is of the type. -/
theorem gives_iff_ensures {a : Answer} : Gives t a ↔ Ensures (·.OfType t) a := by
  cases a with
  | error f => exact iff_of_true trivial (ensures_error f)
  | ok outcome =>
    cases outcome with
    | success v => exact ⟨fun h => ensures_value (P := (·.OfType t)) h, fun h => h v rfl⟩
    | failure code message => exact iff_of_true trivial nofun

theorem gives_any (a : Answer) : Gives .any a := by
  cases a with
  | error f => trivial
  | ok outcome => cases outcome <;> trivial

theorem gives_text (cs : List Char) : Gives .string (text cs) := ⟨_, rfl⟩

theorem gives_bool (b : Bool) : Gives .boolean (bool b) := ⟨b, rfl⟩

theorem gives_whole (n : Int) : Gives .number (whole n) := ⟨_, rfl⟩

theorem gives_decimal (d : Except Decimal.Signal Decimal) : Gives .number (decimal d) := by
  cases d with
  | ok d => exact ⟨d, rfl⟩
  | error s => trivial

theorem gives_refuse (message : String) : Gives t (refuse message) := trivial

/-- A computation before the answer does not matter. -/
theorem gives_bind {x : Except Fault α} {f : α → Answer} (h : ∀ a, Gives t (f a)) :
    Gives t (x >>= f) :=
  gives_iff_ensures.mpr <| ensures_bind fun a _ => gives_iff_ensures.mp (h a)

theorem gives_withText {parameter : String} {v : Value} {next : List Char → Answer}
    (h : ∀ cs, Gives t (next cs)) : Gives t (withText parameter v next) :=
  gives_iff_ensures.mpr <| ensures_withText fun cs => gives_iff_ensures.mp (h cs)

theorem gives_withNumber {parameter : String} {v : Value} {next : Answer} (h : Gives t next) :
    Gives t (withNumber parameter v next) :=
  gives_iff_ensures.mpr <| ensures_withNumber (gives_iff_ensures.mp h)

theorem gives_withBool {parameter : String} {v : Value} {next : Bool → Answer}
    (h : ∀ b, Gives t (next b)) : Gives t (withBool parameter v next) :=
  gives_iff_ensures.mpr <| ensures_withBool fun b => gives_iff_ensures.mp (h b)

theorem gives_withDate {parameter : String} {v : Value} {next : Temporal → Answer}
    (h : ∀ u, Gives t (next u)) : Gives t (withDate parameter v next) :=
  gives_iff_ensures.mpr <| ensures_withDate fun u => gives_iff_ensures.mp (h u)

end Answer

open Answer

/-! ### Functions on texts -/

namespace OnText

theorem gives_changing (change : List Char → List Char) (text : Value) :
    Gives .string (changing change text) :=
  gives_withText fun _ => gives_text _

theorem gives_findReplace (text find replacement : Value) :
    Gives .string (findReplace text find replacement) :=
  gives_withText fun _ => gives_withText fun _ => gives_withText fun _ => gives_text _

theorem gives_substring (text length start : Value) :
    Gives .string (substring text length start) := by
  refine gives_withText fun _ => gives_withNumber ?_
  split_ifs
  · refine gives_bind fun beyond => ?_
    split_ifs
    · exact gives_refuse _
    · exact gives_bind fun _ => gives_bind fun _ => gives_bind fun _ => gives_text _
  · exact gives_refuse _

theorem gives_padded (join : List Char → List Char → List Char) (text length fill : Value) :
    Gives .string (padded join text length fill) :=
  gives_withText fun _ => gives_withNumber <| gives_withText fun _ =>
    gives_bind fun _ => gives_bind fun _ => gives_text _

theorem gives_repeatText (text count : Value) : Gives .string (repeatText text count) := by
  refine gives_withText fun _ => gives_withNumber <| gives_bind fun negative => ?_
  split_ifs
  · trivial
  · exact gives_bind fun _ => gives_bind fun _ => gives_text _

theorem gives_concat (first second third : Value) : Gives .string (concat first second third) := by
  refine gives_withText fun _ => gives_withText fun _ => ?_
  split_ifs
  · exact gives_text _
  · exact gives_withText fun _ => gives_text _

theorem gives_capitalize (text : Value) : Gives .string (capitalize text) :=
  gives_withText fun _ => ⟨_, rfl⟩

theorem gives_length (text : Value) : Gives .number (length text) :=
  gives_withText fun _ => gives_whole _

theorem gives_indexOf (text search : Value) : Gives .number (indexOf text search) :=
  gives_withText fun _ => gives_withText fun _ => gives_whole _

theorem gives_contains (text pattern : Value) : Gives .boolean (contains text pattern) :=
  gives_withText fun _ => gives_withText fun _ => gives_bool _

theorem gives_startsWith (text start : Value) : Gives .boolean (startsWith text start) :=
  gives_withText fun _ => gives_withText fun _ => gives_bool _

theorem gives_endsWith (text ending : Value) : Gives .boolean (endsWith text ending) :=
  gives_withText fun _ => gives_withText fun _ => gives_bool _

theorem gives_withPattern {t : DataType} {source : List Char} {next : Pattern → Answer}
    (h : ∀ p, Gives t (next p)) : Gives t (withPattern source next) := by
  rw [withPattern]
  split
  · exact h _
  · trivial

theorem gives_replacePattern (text pattern replacement : Value) :
    Gives .string (replacePattern text pattern replacement) :=
  gives_withText fun _ => gives_withText fun _ => gives_withText fun _ =>
    gives_withPattern fun _ => gives_text _

theorem gives_matchesPattern (text pattern : Value) :
    Gives .boolean (matchesPattern text pattern) :=
  gives_withText fun _ => gives_withText fun _ => gives_withPattern fun _ => gives_bool _

end OnText

/-! ### Functions on numbers -/

namespace OnNumber

theorem gives_binary (firstName secondName : String)
    (operation : Decimal → Decimal → Except Decimal.Signal Decimal) (a b : Value) :
    Gives .number (binary firstName secondName operation a b) :=
  gives_withNumber <| gives_withNumber <| gives_bind fun _ => gives_bind fun _ => gives_decimal _

theorem gives_unary (operation : Decimal → Except Decimal.Signal Decimal) (num : Value) :
    Gives .number (unary operation num) :=
  gives_withNumber <| gives_bind fun _ => gives_decimal _

theorem gives_nonzero (refusal : String)
    (operation : Decimal → Decimal → Except Decimal.Signal Decimal) (a b : Value) :
    Gives .number (nonzero refusal operation a b) := by
  refine gives_withNumber <| gives_withNumber <| gives_bind fun zero => ?_
  split_ifs
  · exact gives_refuse _
  · exact gives_binary ..

theorem gives_sqrt (num : Value) : Gives .number (sqrt num) := by
  refine gives_withNumber <| gives_bind fun negative => ?_
  split_ifs
  · exact gives_refuse _
  · exact gives_unary ..

theorem gives_toFixed (num decimals : Value) : Gives .string (toFixed num decimals) := by
  refine gives_withNumber <| gives_withNumber <| gives_bind fun places => ?_
  split_ifs
  · trivial
  · refine gives_bind fun x => ?_
    split
    · exact ⟨_, rfl⟩
    · trivial

end OnNumber

/-! ### Functions on dates -/

namespace OnDate

theorem gives_moved (unit : String) (move : Temporal → Int → Except Calendar.Error Temporal)
    (date count : Value) : Gives .date (moved unit move date count) := by
  refine gives_withDate fun u => gives_withNumber <| gives_bind fun units => ?_
  split
  · exact ⟨_, rfl⟩
  · trivial

/-- What is told of a date is of one type for all dates. -/
theorem gives_telling {t : DataType} {tell : Date → Value} (h : ∀ d, (tell d).OfType t)
    (date : Value) : Gives t (telling tell date) :=
  gives_withDate fun _ => h _

theorem gives_diffDays (first second : Value) : Gives .number (diffDays first second) := by
  refine gives_withDate fun u => gives_withDate fun w => ?_
  dsimp only
  split
  · exact gives_whole _
  · trivial

end OnDate

/-! ### Functions on values of any kind -/

namespace OnValue

theorem gives_toNumber (v : Value) : Gives .number (toNumber v) := by
  rw [toNumber.eq_def]
  split
  · exact gives_whole _
  · exact gives_whole _
  · split_ifs
    · exact gives_whole _
    · split
      · exact ⟨_, rfl⟩
      · exact gives_refuse _

theorem gives_ordered (holds : Ordering → Bool) (v w : Value) :
    Gives .boolean (ordered holds v w) :=
  gives_withNumber <| gives_withNumber <| gives_bind fun _ => gives_bind fun _ => gives_bool _

end OnValue

/-! ### All functions -/

/-- **An operation gives a type**, whatever its arguments are. -/
def Operation.Gives (t : DataType) : Operation → Prop
  | .unary _ run => ∀ u, Answer.Gives t (run u)
  | .binary _ _ run => ∀ u v, Answer.Gives t (run u v)
  | .ternary _ _ _ run => ∀ u v w, Answer.Gives t (run u v w)
  | .optionalThird _ _ _ run => ∀ u v w, Answer.Gives t (run u v w)

/-- An operation that is given too few or too many arguments gives nothing. -/
theorem Operation.Gives.apply {t : DataType} {op : Operation} (h : op.Gives t) (name : String)
    (args : List Value) : Answer.Gives t (op.apply name args) := by
  rw [Operation.apply.eq_def]
  split
  · exact h _
  · exact h _ _
  · exact h _ _ _
  · exact h _ _ _
  · exact h _ _ _
  · trivial

namespace Builtin

/-- **The type of what a function returns.** The pieces of a text have no type of their own, and a
value that stands in for another may be of any. -/
def resultType : Builtin → DataType
  | .findReplace | .substring | .upper | .lower | .trim | .padLeft | .padRight | .replacePattern
  | .concat | .repeatText | .reverse | .capitalize | .removeSpaces | .toFixed | .formatLabel
  | .formatDate | .toText => .string
  | .length | .indexOf | .add | .subtract | .multiply | .divide | .modulo | .power | .sqrt | .abs
  | .round | .floor | .ceil | .max | .min | .year | .month | .day | .diffDays
  | .toNumber => .number
  | .contains | .startsWith | .endsWith | .matchesPattern | .isValidDate | .isEmpty | .isNull
  | .isNumber | .isString | .isBoolean | .toBoolean | .equals | .notEquals | .greaterThan
  | .lessThan | .and | .or | .not => .boolean
  | .addMonths | .addDays | .addYears => .date
  | .split | .default => .any

/-- **Each function gives the type of its result.** -/
theorem gives_operation (b : Builtin) : b.operation.Gives b.resultType := by
  cases b with
  | findReplace => exact OnText.gives_findReplace
  | substring => exact OnText.gives_substring
  | upper | lower | trim | reverse | removeSpaces => exact OnText.gives_changing _
  | contains => exact OnText.gives_contains
  | length => exact OnText.gives_length
  | padLeft | padRight => exact OnText.gives_padded _
  | replacePattern => exact OnText.gives_replacePattern
  | startsWith => exact OnText.gives_startsWith
  | endsWith => exact OnText.gives_endsWith
  | indexOf => exact OnText.gives_indexOf
  | concat => exact OnText.gives_concat
  | repeatText => exact OnText.gives_repeatText
  | matchesPattern => exact OnText.gives_matchesPattern
  | capitalize => exact OnText.gives_capitalize
  | add | subtract | multiply | power | max | min => exact OnNumber.gives_binary _ _ _
  | divide | modulo => exact OnNumber.gives_nonzero _ _
  | sqrt => exact OnNumber.gives_sqrt
  | abs | round | floor | ceil => exact OnNumber.gives_unary _
  | toFixed => exact OnNumber.gives_toFixed
  | addMonths | addDays | addYears => exact OnDate.gives_moved _ _
  | formatLabel | formatDate | year | month | day => exact OnDate.gives_telling fun _ => ⟨_, rfl⟩
  | diffDays => exact OnDate.gives_diffDays
  | isValidDate | isEmpty | isNull | isNumber | isString | isBoolean | toBoolean =>
    exact fun _ => gives_bool _
  | toText => exact fun _ => ⟨_, rfl⟩
  | toNumber => exact OnValue.gives_toNumber
  | equals | notEquals => exact fun _ _ => gives_bind fun _ => gives_bool _
  | greaterThan | lessThan => exact OnValue.gives_ordered _
  | and | or => exact fun _ _ => gives_withBool fun _ => gives_withBool fun _ => gives_bool _
  | not => exact fun _ => gives_withBool fun _ => gives_bool _
  | split | default => exact fun _ _ => gives_any _

/-- **A value that a function returns** is of the type of its result. -/
theorem ofType_of_invoke {b : Builtin} {args : List Value} {v : Value}
    (h : b.invoke args = .success v) : v.OfType b.resultType := by
  have hgives : Answer.Gives b.resultType (b.apply args) := b.gives_operation.apply b.name args
  rw [invoke] at h
  split at h
  next outcome houtcome =>
    have hcarries := hgives.of_ok houtcome
    rwa [h] at hcarries
  next => exact nomatch h

end Builtin

/-- **The standard catalogue declares what its functions return.** -/
theorem Catalogue.returnType_eq {f : Entry} (hf : f ∈ standard.entries) :
    f.returnType = f.builtin.resultType := by
  have hall : standard.entries.all (fun f => f.returnType == f.builtin.resultType) = true := rfl
  simpa using List.all_eq_true.mp hall f hf

theorem Catalogue.ofType_of_invoke {f : Entry} (hf : f ∈ standard.entries) {args : List Value}
    {v : Value} (h : f.builtin.invoke args = .success v) : v.OfType f.returnType :=
  returnType_eq hf ▸ Builtin.ofType_of_invoke h

end RuleFlow

import RuleFlow.Number.Binary64.Text
import RuleFlow.Number.Whole
import RuleFlow.Text.Case
import RuleFlow.Text.Search
import RuleFlow.Value.Basic

/-!
# Settings

The settings of a service are read from the variables of its environment. Every variable is read,
so that all that is wrong is told at once.

* `RuleFlow.Settings` holds the settings; `RuleFlow.Settings.standard` are those of an empty
  environment.
* `RuleFlow.Settings.read` reads them; `RuleFlow.SettingError` says what is wrong with a variable.
* `RuleFlow.Settings.describe` is the record of settings.
-/

namespace RuleFlow

open Number

/-- **Where a service runs.** -/
inductive Deployment where
  /-- On the machine of a developer. -/
  | workstation
  /-- In a test. -/
  | test
  /-- In production. -/
  | production
deriving Repr, DecidableEq

namespace Deployment

/-- The places. -/
def all : List Deployment :=
  [workstation, test, production]

/-- The name of a place. -/
def name : Deployment → String
  | workstation => "local"
  | test => "test"
  | production => "prod"

/-- The place of a name, in whatever case. -/
def ofName? (s : String) : Option Deployment :=
  all.find? fun d => d.name == Text.lower s

end Deployment

/-- **The settings of a service.** -/
structure Settings where
  /-- Where it runs. -/
  deployment : Deployment := .workstation
  /-- Its name. -/
  appName : String := "rule-config-engine"
  /-- The least level of what is logged. -/
  logLevel : String := "INFO"
  /-- The region it runs in. -/
  region : String := "local"
  /-- Whether requests are counted and numbered. -/
  observed : Bool := true
  /-- Whether log lines are records. -/
  structuredLogs : Bool := true
  /-- The header that holds the number of a request. -/
  requestIdHeader : String := "X-Request-ID"
  /-- Whether requests are traced. -/
  traced : Bool := false
  /-- The name that traces give the service. -/
  serviceName : String := "rule-config-engine"
  /-- Where traces go. -/
  traceEndpoint : String := "http://localhost:4317"
  /-- The headers that traces are sent with. -/
  traceHeaders : Option String := none
  /-- The name of the sampler of traces. -/
  sampler : String := "parent_trace_always"
  /-- The argument of the sampler. -/
  samplerArg : Binary64 := .ofInt 1
  /-- What has to be given to see the metrics. -/
  metricsToken : Option String := none
  /-- The origins that pages may come from, between commas. -/
  origins : String := "http://localhost:3000,http://localhost:5173"
  /-- The bound on the steps of a run. -/
  stepLimit : Int := 1000
  /-- The bound on the steps of a rule. -/
  mostSteps : Int := 500
  /-- The bound on the size of a request, in units of 1048576 octets. -/
  bodyLimit : Int := 1
deriving Repr

/-! ### Errors -/

/-- **What is wrong with the text of a variable.** -/
inductive SettingFault where
  /-- It names no place. -/
  | notDeployment (given : String)
  /-- There is no region. -/
  | noRegion
  /-- It is none of a region. -/
  | notRegion (given : String)
  /-- It is no truth value. -/
  | notFlag
  /-- It is no whole number. -/
  | notWhole
  /-- It is no number. -/
  | notNumber
  /-- It is a bound below one. -/
  | notPositive
  /-- In production, a page may not come from the machine itself. -/
  | ownOrigin (origin : String)
deriving Repr, DecidableEq

namespace SettingFault

/-- The sort of a fault. -/
def sort : SettingFault → String
  | notFlag => "bool_parsing"
  | notWhole => "int_parsing"
  | notNumber => "float_parsing"
  | _ => "value_error"

/-- **The wording of a fault.** -/
def message : SettingFault → String
  | notDeployment given =>
    s!"Value error, app_env must be one of ['local', 'test', 'prod'], got '{given}'"
  | noRegion => "Value error, app_region must be set"
  | notRegion given =>
    "Value error, app_region must be 1-20 alphanumeric characters " ++
      s!"(hyphens/underscores allowed), got '{given}'"
  | notFlag => "Input should be a valid boolean, unable to interpret input"
  | notWhole => "Input should be a valid integer, unable to parse string as an integer"
  | notNumber => "Input should be a valid number, unable to parse string as a number"
  | notPositive => "Value error, limits must be positive integers"
  | ownOrigin origin =>
    s!"Value error, CORS origins must not contain localhost in production: {origin}"

end SettingFault

/-- **An error of settings**: the variable, unless it concerns several, and what is wrong. -/
structure SettingError where
  /-- The variable. -/
  name : Option String
  /-- What is wrong. -/
  fault : SettingFault
deriving Repr, DecidableEq

namespace Settings

/-! ### Reading single variables -/

/-- The place that a text names. -/
def readDeployment (s : String) : Except SettingFault Deployment :=
  match Deployment.ofName? s with
  | some d => .ok d
  | none => .error (.notDeployment s)

/-- A character that a region may start with: a capital letter or a digit. -/
def isRegionStart (c : Char) : Bool :=
  c.isUpper || c.isDigit

/-- **The form of a region**: up to twenty capital letters, digits, low lines and hyphens, the
first of them a letter or a digit. -/
def isRegion (cs : List Char) : Bool :=
  match cs with
  | [] => false
  | c :: rest =>
    isRegionStart c && decide (rest.length ≤ 19) &&
      rest.all fun c => isRegionStart c || c == '_' || c == '-'

/-- The region that a text gives, in capitals. -/
def readRegion (s : String) : Except SettingFault String :=
  let region := Text.upper (Text.trim s)
  if region.isEmpty then .error .noRegion
  else if isRegion region.toList then .ok region
  else .error (.notRegion s)

/-- The words for true. -/
def onWords : List String :=
  ["1", "on", "t", "true", "y", "yes"]

/-- The words for false. -/
def offWords : List String :=
  ["0", "off", "f", "false", "n", "no"]

/-- The truth value that a text spells, in whatever case. -/
def readSwitch (s : String) : Except SettingFault Bool :=
  let word := String.ofList (s.toList.map Char.toLower)
  if onWords.contains word then .ok true
  else if offWords.contains word then .ok false
  else .error .notFlag

/-- Whether a character may stand around a number: white space, but no information separator. -/
def isPadding (c : Char) : Bool :=
  Text.isBlank c && !(decide (28 ≤ c.toNat) && decide (c.toNat ≤ 31))

/-- The whole number that a text writes; zeros may stand after a point. -/
def whole? (s : String) : Option Int :=
  let cs := ((s.toList.dropWhile isPadding).reverse.dropWhile isPadding).reverse
  let digits := cs.takeWhile (· ≠ '.')
  let fraction := (cs.dropWhile (· ≠ '.')).drop 1
  if digits.all (fun c => c.isDigit || c == '_' || c == '+' || c == '-') &&
      fraction.all (· == '0') then
    readWhole? (String.ofList digits)
  else none

/-- A bound: a whole number above zero. -/
def readBound (s : String) : Except SettingFault Int :=
  match whole? s with
  | some n => if n < 1 then .error .notPositive else .ok n
  | none => .error .notWhole

/-- A number. -/
def readNumber (s : String) : Except SettingFault Binary64 :=
  match Binary64.ofText? s with
  | some x => .ok x
  | none => .error .notNumber

/-! ### Reading all -/

/-- What is read, or all that is wrong. -/
abbrev Checked (α : Type) := Except (List SettingError) α

/-- A function applied to what is read; what is wrong on either side is kept, in order. -/
def Checked.apply {α β : Type} (f : Checked (α → β)) (a : Checked α) : Checked β :=
  match f, a with
  | .ok f, .ok a => .ok (f a)
  | .ok _, .error wrong => .error wrong
  | .error wrong, .ok _ => .error wrong
  | .error wrong, .error more => .error (wrong ++ more)

/-- The variables of an environment, by their names in lower case. The last of equal names
counts. -/
def byLowerName (environment : Keyed String) : Keyed String :=
  Keyed.ofPairs (environment.map fun (name, s) => (Text.lower name, s))

/-- A variable, read in a given way, or what stands for it. -/
def readAs {α : Type} (read : String → Except SettingFault α) (given : Keyed String)
    (name : String) (standard : α) : Checked α :=
  match given.find? name with
  | none => .ok standard
  | some s => (read s).mapError fun fault => [{ name := some name, fault }]

/-- The settings of an empty environment. -/
def standard : Settings := {}

/-- **The origins that pages may come from.** -/
def originList (s : Settings) : List String :=
  ((Text.splitOn [','] s.origins.toList).map fun piece => String.ofList (Text.trimChars piece))
    |>.filter fun origin => !origin.isEmpty

/-- Whether an origin is the machine itself. -/
def isOwnOrigin (origin : String) : Bool :=
  ["localhost", "127.0.0.1"].any fun host => Text.occursIn host.toList origin.toList

/-- **The check of settings as a whole**: in production, no page comes from the machine itself. -/
def check (s : Settings) : Checked Settings :=
  match s.deployment, s.originList.find? isOwnOrigin with
  | .production, some origin => .error [{ name := none, fault := .ownOrigin origin }]
  | _, _ => .ok s

/-- **Reading settings** from the variables of an environment. Variables that are no settings are
passed over. -/
def read (environment : Keyed String) : Checked Settings :=
  let given := byLowerName environment
  let text := readAs (α := String) .ok given
  let optional := readAs (α := Option String) (fun s => .ok (some s)) given
  let switch := readAs readSwitch given
  let bound := readAs readBound given
  let settings : Checked Settings :=
    Checked.apply (.ok Settings.mk) (readAs readDeployment given "app_env" standard.deployment)
      |>.apply (text "app_name" standard.appName)
      |>.apply (text "app_log_level" standard.logLevel)
      |>.apply (readAs readRegion given "app_region" standard.region)
      |>.apply (switch "observability_enabled" standard.observed)
      |>.apply (switch "observability_structured_logs" standard.structuredLogs)
      |>.apply (text "observability_request_id_header" standard.requestIdHeader)
      |>.apply (switch "otel_enabled" standard.traced)
      |>.apply (text "otel_service_name" standard.serviceName)
      |>.apply (text "otel_exporter_otlp_endpoint" standard.traceEndpoint)
      |>.apply (optional "otel_exporter_otlp_headers" standard.traceHeaders)
      |>.apply (text "otel_traces_sampler" standard.sampler)
      |>.apply (readAs readNumber given "otel_traces_sampler_arg" standard.samplerArg)
      |>.apply (optional "metrics_token" standard.metricsToken)
      |>.apply (text "cors_origins" standard.origins)
      |>.apply (bound "rule_execution_max_steps" standard.stepLimit)
      |>.apply (bound "rule_max_steps_per_rule" standard.mostSteps)
      |>.apply (bound "request_max_size_mb" standard.bodyLimit)
  settings.bind check

/-! ### Records -/

/-- **The record of settings**, by the names of their variables. -/
def describe (s : Settings) : Keyed Value :=
  [("app_env", .text s.deployment.name), ("app_name", .text s.appName),
    ("app_log_level", .text s.logLevel), ("app_region", .text s.region),
    ("observability_enabled", .bool s.observed),
    ("observability_structured_logs", .bool s.structuredLogs),
    ("observability_request_id_header", .text s.requestIdHeader),
    ("otel_enabled", .bool s.traced), ("otel_service_name", .text s.serviceName),
    ("otel_exporter_otlp_endpoint", .text s.traceEndpoint),
    ("otel_exporter_otlp_headers", .ofText? s.traceHeaders),
    ("otel_traces_sampler", .text s.sampler), ("otel_traces_sampler_arg", .float s.samplerArg),
    ("metrics_token", .ofText? s.metricsToken), ("cors_origins", .text s.origins),
    ("rule_execution_max_steps", .int s.stepLimit),
    ("rule_max_steps_per_rule", .int s.mostSteps), ("request_max_size_mb", .int s.bodyLimit)]

end Settings

end RuleFlow

import RuleFlow.Service.Settings
import RuleFlow.Value.Equality

/-!
# Tracing

Requests can be traced: what a service does is told to a collector, in spans.

* `RuleFlow.Tracing.readHeaders` reads the headers that spans are sent with.
* `RuleFlow.Tracing.Sampler` says which spans are sent.
* `RuleFlow.Tracing.resource` is what is told of the service.
* `RuleFlow.Tracing.Span` is what is told of one operation.
* `RuleFlow.Tracing.setup` is the tracing of a service, unless it is off.
-/

namespace RuleFlow.Tracing

/-! ### Headers -/

/-- The name and value on the two sides of the first equals sign, if there is one. -/
def header? (piece : List Char) : Option (String × String) :=
  if piece.contains '=' then
    some (String.ofList (Text.trimChars (piece.takeWhile (· ≠ '='))),
      String.ofList (Text.trimChars ((piece.dropWhile (· ≠ '=')).drop 1)))
  else none

/-- **Reading headers** between commas. What has no equals sign is passed over, and the last of
equal names counts. -/
def readHeaders (s : String) : Keyed String :=
  Keyed.ofPairs ((Text.splitOn [','] s.toList).filterMap header?)

/-! ### Samplers -/

/-- **Which spans are sent.** -/
inductive Sampler where
  /-- All of them. -/
  | alwaysOn
  /-- None. -/
  | alwaysOff
  /-- A part of them. -/
  | ratio (rate : Value)
  /-- Those whose parents are sent, and a part of those without one. -/
  | parentBased (rate : Value)
deriving Repr

namespace Sampler

/-- The check that a rate is one. -/
def checkRate (rate : Value) : Except Fault Unit := do
  if ← rate.less (.int 0) then .error .rateRange
  else if ← Value.less (.int 1) rate then .error .rateRange
  else return ()

/-- **The sampler of a name**, with a rate for those that need one. -/
def ofName (name : String) (rate : Value) : Except Fault Sampler :=
  match name with
  | "always_on" => .ok .alwaysOn
  | "always_off" => .ok .alwaysOff
  | "traceidratio" => (checkRate rate).map fun _ => .ratio rate
  | _ => (checkRate rate).map fun _ => .parentBased rate

/-- The text of a sampler of a part. -/
def describeRatio (rate : Value) : String :=
  "TraceIdRatioBased\x7b" ++ rate.display ++ "\x7d"

/-- **The text of a sampler.** -/
def describe : Sampler → String
  | alwaysOn => "AlwaysOnSampler"
  | alwaysOff => "AlwaysOffSampler"
  | ratio rate => describeRatio rate
  | parentBased rate =>
    "ParentBased\x7broot:" ++ describeRatio rate ++
      ",remoteParentSampled:AlwaysOnSampler,remoteParentNotSampled:AlwaysOffSampler" ++
      ",localParentSampled:AlwaysOnSampler,localParentNotSampled:AlwaysOffSampler\x7d"

end Sampler

/-! ### Attributes -/

/-- Whether a value is one that an attribute can have by itself. -/
def isScalar : Value → Bool
  | .bool _ | .int _ | .float _ | .text _ => true
  | _ => false

/-- Whether the items of a list are values of one kind, nothing being of every kind. -/
def isUniform (items : List Value) : Bool :=
  let known := items.filter fun v => !v.isNull
  known.all isScalar && (known.map Value.className).all fun name =>
    (known.head?.map Value.className) == some name

/-- Whether a value can be an attribute: a truth value, a number, a text, or a list of one
kind. -/
def isAttribute : Value → Bool
  | .list items => isUniform items
  | v => isScalar v

/-- An attribute is added, if its value can be one. -/
def withAttribute (attributes : Keyed Value) (name : String) (v : Value) : Keyed Value :=
  if isAttribute v then attributes.set name v else attributes

/-! ### Resources -/

/-- The name of a service that has none. -/
def unknownService : String := "unknown_service"

/-- **What is told of a service.** -/
def resource (service deployment region : Value) : Keyed Value :=
  let told : Keyed Value :=
    [("service.name", service), ("deployment.environment", deployment), ("app.region", region),
      ("service.version", .text "0.1.0"), ("telemetry.sdk.language", .text "python")]
  let kept : Keyed Value := told.foldl (fun kept (name, v) => withAttribute kept name v) []
  if ((Keyed.find? kept "service.name").getD .null).truthy then kept
  else Keyed.set kept "service.name" (.text unknownService)

/-! ### Spans -/

/-- **What is told of one operation.** -/
structure Span where
  /-- The name. -/
  name : String
  /-- The attributes. -/
  attributes : Keyed Value
deriving Repr

/-- The names under which a span is told its operation and rule. -/
def takenNames : List String :=
  ["operation", "rule_id"]

/-- **The span of an operation** on a rule. Nothing is told of attributes without a value. -/
def span (operation : String) (ruleId : Value) (attributes : Keyed Value) : Except Fault Span :=
  match takenNames.find? attributes.has with
  | some name => .error (.misused s!"a span has an attribute {name} of its own")
  | none =>
    let start := withAttribute [] "rule.id" ruleId
    .ok {
      name := "rule." ++ operation
      attributes := attributes.foldl (fun told (key, v) =>
        withAttribute told ("rule." ++ key) v) start }

/-! ### The tracing of a service -/

/-- **The tracing of a service**: its resource, its sampler, and where spans go. -/
structure Setup where
  /-- What is told of the service. -/
  resource : Keyed Value
  /-- Which spans are sent. -/
  sampler : Sampler
  /-- Where they go. -/
  endpoint : String
  /-- The headers that they are sent with. -/
  headers : Keyed String

/-- The tracing that settings ask for, unless it is off. A sampler that cannot be leaves it
off. -/
def setup (s : Settings) : Option Setup :=
  if s.traced then
    match Sampler.ofName s.sampler (.float s.samplerArg) with
    | .ok sampler =>
      some {
        resource := resource (.text s.serviceName) (.text s.deployment.name) (.text s.region)
        sampler
        endpoint := s.traceEndpoint
        headers := readHeaders (s.traceHeaders.getD "") }
    | .error _ => none
  else none

end RuleFlow.Tracing

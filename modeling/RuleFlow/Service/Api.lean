import RuleFlow.Json.Writer
import RuleFlow.Program.Run
import RuleFlow.Service.Http
import RuleFlow.Service.Meter
import RuleFlow.Service.Redaction

/-!
# The service

The service compiles, runs, emits and tries rules, and shows its functions, over HTTP.

* `RuleFlow.Api.Endpoint` lists what can be asked; `RuleFlow.Api.routes` finds it by its path.
* `RuleFlow.Api.perform` does what is asked, `RuleFlow.Api.respond` answers also what went wrong.
* `RuleFlow.Api.answer` is the whole: the size of a request is bounded, pages of other origins are
  let in or not, requests are logged, and answers are counted and numbered.
-/

namespace RuleFlow.Api

/-! ### What can be asked -/

/-- **What can be asked.** -/
inductive Endpoint where
  /-- Whether the service is there. -/
  | health
  /-- Whether the service is ready. -/
  | ready
  /-- The functions. -/
  | functions
  /-- The categories of functions. -/
  | categories
  /-- One function. -/
  | function (name : String)
  /-- Compiling a rule. -/
  | compile
  /-- Running a rule. -/
  | execute
  /-- Emitting a rule as a program. -/
  | emit
  /-- Running the program of a rule. -/
  | test
  /-- The counts of the service. -/
  | metrics
deriving Repr, DecidableEq

/-- The methods by which something is asked. -/
def Endpoint.methods : Endpoint → List String
  | health | ready | functions | categories | function _ => ["GET"]
  | compile | execute | emit | test => ["POST"]
  | metrics => ["GET", "HEAD"]

/-- What all paths but one start with. -/
def pathStart : String := "/api/v1"

/-- The paths of what has one. -/
def fixedPaths : List (String × Endpoint) :=
  [(pathStart ++ "/health", .health), (pathStart ++ "/readyz", .ready),
    (pathStart ++ "/functions", .functions), (pathStart ++ "/functions/categories", .categories),
    (pathStart ++ "/rules/compile", .compile), (pathStart ++ "/rules/execute", .execute),
    (pathStart ++ "/rules/emit", .emit), (pathStart ++ "/rules/test", .test)]

/-- The path of the counts. -/
def metricsPath : String := "/metrics"

/-- What the names of functions come after. -/
def functionStart : String := pathStart ++ "/functions/"

/-- The name of a function in a path: what is left of it, without another slash. -/
def functionName? (path : String) : Option String :=
  let start := functionStart.toList
  let name := path.toList.drop start.length
  if start.isPrefixOf path.toList && !name.isEmpty && !name.contains '/' then
    some (String.ofList name)
  else none

/-- **What a path asks for.** The counts are there only in a service that counts. -/
def endpoint? (s : Settings) (path : String) : Option Endpoint :=
  match fixedPaths.lookup path with
  | some e => some e
  | none =>
    if s.observed && path == metricsPath then some .metrics
    else (functionName? path).map .function

/-- A path without the slashes at its end. -/
def withoutSlash (path : String) : String :=
  String.ofList (path.toList.reverse.dropWhile (· == '/')).reverse

/-- The path to ask instead of one with slashes at its end that leads nowhere. -/
def elsewhere? (s : Settings) (path : String) : Option String :=
  let shorter := withoutSlash path
  if shorter ≠ path && (endpoint? s shorter).isSome then some shorter else none

/-! ### What goes wrong -/

/-- **A field that is refused**: the way to it, and why. -/
structure FieldError where
  /-- The way. -/
  place : List Value
  /-- Why. -/
  message : String
deriving Repr

/-- The record of a refused field. -/
def FieldError.describe (e : FieldError) : Value :=
  .record [("loc", .list e.place), ("msg", .text e.message)]

/-- **Why nothing is done** that was asked. -/
inductive Refusal where
  /-- Something is wrong with a rule, or with what it was run on. -/
  | rule (e : RuleError)
  /-- Something is wrong with the request. -/
  | fields (errors : List FieldError)
  /-- The service itself refuses, in a wording of its own. -/
  | service (status : Nat) (message : String)
deriving Repr

/-- Doing what was asked, and counting it. -/
abbrev Doing (α : Type) := Metered Refusal α

/-- A computation on rules as a part of what was asked. -/
def onRule {α : Type} (c : Metered RuleError α) : Doing α :=
  ExceptT.adapt Refusal.rule c

/-- What can be a fault, as a part of what was asked. -/
def orFault {α : Type} (r : Except Fault α) : Doing α :=
  match r with
  | .ok a => return a
  | .error f => throw (.rule (.fault f))

/-! ### Requests -/

/-- The place of the body. -/
def bodyPlace : Value := .text "body"

/-- The way to a field of the body. -/
def inBody (name : String) : List Value :=
  [bodyPlace, .text name]

/-- The wording for something that is missing. -/
def requiredMessage : String := "Field required"

/-- The wording for what is no record. -/
def recordMessage : String := "Input should be a valid dictionary"

/-- The text of a body without a mark of byte order. -/
def bodyText (s : String) : String :=
  match s.toList with
  | '\uFEFF' :: rest => String.ofList rest
  | _ => s

/-- **The document of a request**, if it has one. A body of another type is no document. -/
def document (r : Request) : Except Refusal (Option Value) :=
  if r.body.isEmpty then .ok none
  else if r.isJson then
    match Json.read (bodyText r.body) with
    | .ok .null => .ok none
    | .ok v => .ok (some v)
    | .error place =>
      .error (.fields [{ place := [bodyPlace, .int place], message := "JSON decode error" }])
  else .ok (some (.text r.body))

/-- **A rule and what it is to be run on.** -/
structure RuleRequest where
  /-- The rule. -/
  rule : Value
  /-- The inputs. -/
  inputs : Value := .record []

namespace RuleRequest

/-- The field of the rule: a record with an identifier. -/
def readRule (body : Value) : Except FieldError Value :=
  let refused (message : String) : Except FieldError Value :=
    .error { place := inBody "rule", message }
  match body.field? "rule" with
  | none => refused requiredMessage
  | some (.record fields) =>
    if fields.isEmpty then refused "Value error, rule cannot be empty"
    else if ((Value.record fields).field "id").truthy ||
        ((Value.record fields).field "ruleId").truthy then
      .ok (.record fields)
    else refused "Value error, rule must have an 'id' or 'ruleId'"
  | some _ => refused recordMessage

/-- The field of the inputs: a record, which may be left out. -/
def readInputs (body : Value) : Except FieldError Value :=
  match body.field? "inputs" with
  | none => .ok (.record [])
  | some (.record fields) => .ok (.record fields)
  | some _ => .error { place := inBody "inputs", message := recordMessage }

/-- **Reading a request** for a rule, with inputs if they are wanted. All that is wrong is told. -/
def read (withInputs : Bool) (body : Option Value) : Except Refusal RuleRequest :=
  match body with
  | none => .error (.fields [{ place := [bodyPlace], message := requiredMessage }])
  | some (.record fields) =>
    let body := Value.record fields
    match readRule body, if withInputs then readInputs body else .ok (.record []) with
    | .ok rule, .ok inputs => .ok { rule, inputs }
    | .ok _, .error e => .error (.fields [e])
    | .error e, .ok _ => .error (.fields [e])
    | .error e, .error e' => .error (.fields [e, e'])
  | some _ =>
    .error (.fields [{
      place := [bodyPlace]
      message := "Input should be a valid dictionary or object to extract fields from" }])

end RuleRequest

/-- The request for a rule that a request holds. -/
def ruleRequest (withInputs : Bool) (r : Request) : Doing RuleRequest :=
  match document r >>= RuleRequest.read withInputs with
  | .ok request => return request
  | .error e => throw e

/-! ### Queries -/

/-- The number of characters of a search. -/
def longestSearch : Nat := 100

/-- The category that is asked for, if one is. -/
def readCategory (r : Request) : Except FieldError (Option Category) :=
  match r.queried? "category" with
  | none => .ok none
  | some s =>
    match Category.ofName? s with
    | some c => .ok (some c)
    | none =>
      .error {
        place := [.text "query", .text "category"]
        message := "Input should be 'STR', 'NUM', 'DATE' or 'UTIL'" }

/-- What is searched for, if anything is. -/
def readSearch (r : Request) : Except FieldError (Option String) :=
  match r.queried? "search" with
  | none => .ok none
  | some s =>
    if s.length ≤ longestSearch then .ok (some s)
    else
      .error {
        place := [.text "query", .text "search"]
        message := s!"String should have at most {longestSearch} characters" }

/-- The functions that are asked for. -/
def listing (r : Request) : Except Refusal (List Entry) :=
  match readCategory r, readSearch r with
  | .ok category, .ok search => .ok (Catalogue.standard.listed category search)
  | .ok _, .error e => .error (.fields [e])
  | .error e, .ok _ => .error (.fields [e])
  | .error e, .error e' => .error (.fields [e, e'])

/-! ### What is done -/

/-- An answer with a document. -/
def success (fields : Keyed Value) : Doing Response :=
  return Response.ofDocument 200 fields

/-- Compiling the rule of a request. -/
def compileRule (s : Settings) (request : RuleRequest) : Doing CompiledRule :=
  onRule (Metered.compile request.rule (some s.mostSteps))

/-- The answer of an outcome. Values are written as they go into documents. -/
def outcomeResponse (o : Outcome) : Doing Response := do
  match o with
  | .success v => success [("success", .bool true), ("value", ← orFault v.toPlain)]
  | .failure .. =>
    match o.toValue with
    | .record fields => success fields
    | _ => success []

/-- The counts, for those who know the token. -/
def metricsResponse (s : Settings) (r : Request) : Doing Response := do
  let expected := s.metricsToken.getD ""
  let given := (r.header? "x-metrics-token").getD ""
  if expected.isEmpty then
    throw (.service 500 "Metrics token not configured. Set METRICS_TOKEN environment variable.")
  else if !(expected.toList ++ given.toList).all fun c => decide (c.toNat < 128) then
    throw (.rule (.fault (.misused "tokens are compared in ASCII")))
  else if given ≠ expected then throw (.service 403 "Invalid metrics token")
  else return { status := 200, content := .counts }

/-- **Doing what is asked.** -/
def perform (s : Settings) (r : Request) : Endpoint → Doing Response
  | .health => success [("ok", .bool true)]
  | .ready =>
    success [("ok", .bool true), ("registry_version", .text Catalogue.version),
      ("functions", .int Catalogue.standard.entries.length)]
  | .functions => do
    match listing r with
    | .ok found =>
      success [("registry_version", .text Catalogue.version), ("count", .int found.length),
        ("functions", .list (found.map Entry.describe))]
    | .error e => throw e
  | .categories => return { status := 200, content := .document (.list Catalogue.standard.tally) }
  | .function name => do
    match ← orFault (Catalogue.standard.get name) with
    | some f => return { status := 200, content := .document f.describe }
    | none => throw (.rule (.notFound name Catalogue.version))
  | .compile => do
    let c ← compileRule s (← ruleRequest false r)
    return { status := 200, content := .document c.summary }
  | .execute => do
    let request ← ruleRequest true r
    let c ← compileRule s request
    outcomeResponse (← onRule (Metered.execute c request.inputs s.stepLimit))
  | .emit => do
    let c ← compileRule s (← ruleRequest false r)
    return { status := 200, content := .program (← onRule (Metered.emit c s.stepLimit)) }
  | .test => do
    let request ← ruleRequest true r
    let c ← compileRule s request
    let p ← onRule (Metered.emit c s.stepLimit)
    match p.run request.inputs with
    | .ok o => outcomeResponse o
    | .error e => throw (.rule e)
  | .metrics => metricsResponse s r

/-! ### Answers -/

/-- An answer, if it can be written. -/
def written (r : Response) : Except Fault Response :=
  match r.content with
  | .document v => (Json.check true v).map fun _ => r
  | _ => .ok r

/-- **The answer of what went wrong.** Faults have none here. -/
def refusalResponse (s : Settings) : Refusal → Except Fault Response
  | .rule (.fault f) => .error f
  | .rule e =>
    written (.ofError ((e.kind?.map ErrorKind.status).getD 500) e.kindName e.message
      (Redaction.details s.deployment e.details))
  | .fields errors =>
    .ok (.ofError 400 ErrorKind.validation.name "Request body is invalid"
      (Redaction.details s.deployment [("errors", .list (errors.map FieldError.describe))]))
  | .service status message => .ok (.ofError status "HTTPException" message)

/-- The answer without a word on what went wrong. -/
def plainRefusal (status : Nat) (reason : String) : Response :=
  .ofDocument status [("detail", .text reason)]

/-- **Answering a request**, up to faults. -/
def respond (s : Settings) (r : Request) : Metered Fault Response := do
  match endpoint? s r.path with
  | none =>
    match elsewhere? s r.path with
    | some path => return { status := 307, content := .text "", location := some path }
    | none => return plainRefusal 404 "Not Found"
  | some e =>
    if !e.methods.contains r.method then return plainRefusal 405 "Method Not Allowed"
    else
      let result : StateM Meter (Except Refusal Response) := (perform s r e).run
      match (← result) with
      | .ok response => liftExcept (written response)
      | .error refusal => liftExcept (refusalResponse s refusal)
where
  liftExcept (r : Except Fault Response) : Metered Fault Response :=
    match r with
    | .ok response => return response
    | .error f => throw f

/-! ### Around every answer -/

/-- The number of a request: the one it brings, or a new one. -/
def requestId (s : Settings) (r : Request) : String :=
  match r.header? s.requestIdHeader with
  | some id => if id.isEmpty then r.freshId else id
  | none => r.freshId

/-- **Counting and numbering answers**, in a service that does. A fault is counted too, but its
answer has no number. -/
def observe (s : Settings) (r : Request) : Metered Fault Response := do
  if !s.observed then respond s r
  else
    modify fun m => { m with region := s.region }
    let response ← tryCatch (respond s r) fun f => do
      Metered.record (.crashed r.method r.shownPath f.className)
      throw f
    Metered.record (.answered r.method r.shownPath response.status)
    return response.withHeader s.requestIdHeader (requestId s r)

/-- **What is logged of a request**: its level and its record, without the times. -/
structure RequestLog where
  /-- The level. -/
  level : String
  /-- The record. -/
  entry : Value
deriving Repr

/-- The level at which an answer is logged. -/
def logLevelOf (status : Nat) : String :=
  if 500 ≤ status then "ERROR" else if 400 ≤ status then "WARNING" else "INFO"

/-- What the paths of requests that are not logged start with. -/
def unloggedPaths : List String :=
  [metricsPath, pathStart ++ "/health"]

/-- Whether requests are logged: outside production, and for most paths. -/
def isLogged (s : Settings) (r : Request) : Bool :=
  s.deployment != .production &&
    unloggedPaths.all fun start => !start.toList.isPrefixOf r.shownPath.toList

/-- **What is logged** of an answered request, without secrets. -/
def logOf (r : Request) (response : Response) : RequestLog :=
  let query : Value := if r.query.isEmpty then .null else .text (Text.Percent.writeQuery r.query)
  let body := if r.hasBody then Redaction.bodyText r.body else .null
  let headers := Redaction.headers (r.headers.map fun (name, s) => (name, .text s))
  { level := logLevelOf response.status
    entry := .record [("type", .text "api_call"), ("request_id", .text "unknown"),
      ("request", .record [("method", .text r.method), ("path", .text r.shownPath),
        ("query_params", query), ("headers", .record headers), ("body", body)]),
      ("response", .record [("status_code", .int response.status)])] }

/-- The number of octets that a request may have. -/
def mostOctets (s : Settings) : Int :=
  s.bodyLimit * 1024 * 1024

/-- The size that a request says it has, if it says so in digits. -/
def statedSize (r : Request) : Except Fault (Option Int) :=
  match r.header? "content-length" with
  | none => .ok none
  | some s =>
    if Text.isDigitString s then
      (Value.wholeOfText s).map some
    else .ok none

/-- **Whether a request is too large**: it says so, or it is. -/
def isTooLarge (s : Settings) (r : Request) : Except Fault Bool := do
  let stated ← statedSize r
  return stated.any (fun n => decide (mostOctets s < n)) ||
    (r.hasBody && decide (mostOctets s < r.bodySize))

/-- The answer to a request that is too large. -/
def tooLarge : Response :=
  .ofDocument 413
    [("error", .text "RequestTooLarge"),
      ("message", .text "Request body exceeds maximum allowed size")]

/-- An answer without its content, where none was asked for. -/
def withoutContent (r : Request) (response : Response) : Response :=
  match r.method, response.content with
  | "HEAD", .counts => response
  | "HEAD", _ => { response with content := .text "" }
  | _, _ => response

/-- **A request and its answer**, with what is logged of it. -/
def answer (s : Settings) (r : Request) : StateM Meter (Response × List RequestLog) := do
  match isTooLarge s r with
  | .error _ => return (withoutContent r .ofFault, [])
  | .ok true => return (withoutContent r tooLarge, [])
  | .ok false =>
    match Origins.preflight? s.originList r with
    | some response => return (response, [])
    | none =>
      let result : StateM Meter (Except Fault Response) := (observe s r).run
      match (← result) with
      | .error _ => return (withoutContent r .ofFault, [])
      | .ok response =>
        let logs := if isLogged s r then [logOf r response] else []
        let headers := Origins.headers s.originList r
        let response := headers.foldl (fun response (name, s) => response.withHeader name s)
          response
        return (withoutContent r response, logs)

/-- **A request and its answer**, asked again where the first answer says so. -/
def ask (s : Settings) (r : Request) : StateM Meter (Response × List RequestLog) := do
  let (response, logs) ← answer s r
  match response.location with
  | none => return (response, logs)
  | some path =>
    let (response, more) ← answer s { r with path }
    return (response, logs ++ more)

end RuleFlow.Api

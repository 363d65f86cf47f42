import RuleFlow.Program.Basic
import RuleFlow.Service.Settings
import RuleFlow.Text.Percent

/-!
# Requests and answers

* `RuleFlow.Request` is what a service is asked, `RuleFlow.Response` what it answers.
* `RuleFlow.Origins.preflight?` answers the requests by which a browser asks whether a page of
  another origin may use the service; `RuleFlow.Origins.headers` are the headers that tell it so in
  all other answers.
-/

namespace RuleFlow

/-- **What a service is asked.** -/
structure Request where
  /-- The method, in capitals. -/
  method : String
  /-- The path. -/
  path : String
  /-- The pairs of the query. -/
  query : List (String × String) := []
  /-- The headers, by their names in lower case. -/
  headers : Keyed String := []
  /-- The body. -/
  body : String := ""
  /-- A number that nothing else has, for a request that brings none. -/
  freshId : String
deriving Repr

namespace Request

/-- A header, its name being in whatever case. -/
def header? (r : Request) (name : String) : Option String :=
  r.headers.find? (Text.lower name)

/-- The path as it is told: what stands before a question mark or a number sign. -/
def shownPath (r : Request) : String :=
  String.ofList (r.path.toList.takeWhile fun c => c != '?' && c != '#')

/-- The value of a key of the query; the last of equal keys counts. -/
def queried? (r : Request) (key : String) : Option String :=
  (r.query.reverse.find? fun (k, _) => k == key).map (·.2)

/-- The number of octets of the body. -/
def bodySize (r : Request) : Nat :=
  Text.Utf8.size r.body.toList

/-- The methods of requests whose bodies are read. -/
def bodyMethods : List String :=
  ["POST", "PUT", "PATCH"]

/-- Whether the body of a request is read. -/
def hasBody (r : Request) : Bool :=
  bodyMethods.contains r.method

/-- **Whether the body is a JSON document**, by the header that tells its type. -/
def isJson (r : Request) : Bool :=
  match r.header? "content-type" with
  | none => true
  | some s =>
    let type := Text.lower (String.ofList (Text.trimChars (s.toList.takeWhile (· ≠ ';'))))
    match Text.splitOn ['/'] type.toList with
    | [family, sort] =>
      family == "application".toList &&
        (sort == "json".toList || "+json".toList.reverse.isPrefixOf sort.reverse)
    | _ => false

end Request

/-- **What an answer holds.** -/
inductive Content where
  /-- A JSON document. -/
  | document (v : Value)
  /-- A JSON document with the text of a program in it, the name of its function and its
  fingerprint. -/
  | program (p : Program)
  /-- A text. -/
  | text (s : String)
  /-- The counts of the service. -/
  | counts

/-- **What a service answers.** -/
structure Response where
  /-- The status. -/
  status : Nat
  /-- The content. -/
  content : Content
  /-- The headers, by their names in lower case. -/
  headers : Keyed String := []
  /-- Where to ask instead. -/
  location : Option String := none

namespace Response

/-- An answer with a document. -/
def ofDocument (status : Nat) (fields : Keyed Value) : Response :=
  { status, content := .document (.record fields) }

/-- An answer with one more header. -/
def withHeader (r : Response) (name s : String) : Response :=
  { r with headers := r.headers.set (Text.lower name) s }

/-- The type of the counts of a service. -/
def countsType : String :=
  "text/plain; version=0.0.4; charset=utf-8"

/-- The answer of an error of a given name. -/
def ofError (status : Nat) (name message : String) (details : Keyed Value := []) : Response :=
  ofDocument status
    [("error", .text name), ("message", .text message), ("details", .record details)]

/-- The answer of a fault: nothing is told of it. -/
def ofFault : Response :=
  ofError 500 "InternalServerError" "An unexpected error occurred"

end Response

/-! ### Pages of other origins -/

namespace Origins

/-- The header that lets a page of an origin in. -/
def allowOrigin : String := "access-control-allow-origin"

/-- The header that lets a page send what the browser keeps for the service. -/
def allowCredentials : String := "access-control-allow-credentials"

/-- The origin that stands for all. -/
def anyOrigin : String := "*"

/-- Whether pages of an origin are let in. -/
def isAllowed (allowed : List String) (origin : String) : Bool :=
  allowed.contains anyOrigin || allowed.contains origin

/-- The methods that pages may use. -/
def methods : List String :=
  ["DELETE", "GET", "HEAD", "OPTIONS", "PATCH", "POST", "PUT"]

/-- **The answer to a browser** that asks in advance, if the request is one of those. It names what
is not allowed. -/
def preflight? (allowed : List String) (r : Request) : Option Response :=
  match r.header? "origin", r.header? "access-control-request-method" with
  | some origin, some method =>
    if r.method ≠ "OPTIONS" then none
    else
      let known := isAllowed allowed origin
      let failures :=
        (if known then [] else ["origin"]) ++ if methods.contains method then [] else ["method"]
      let headers : Keyed String :=
        (allowCredentials, "true") :: if known then [(allowOrigin, origin)] else []
      some (
        if failures.isEmpty then { status := 200, content := .text "OK", headers }
        else
          { status := 400, headers
            content := .text ("Disallowed CORS " ++ ", ".intercalate failures) })
  | _, _ => none

/-- **The headers of an answer** to a page: its origin, if it is let in. Where all are, a page that
sends what the browser keeps is told its own. -/
def headers (allowed : List String) (r : Request) : Keyed String :=
  match r.header? "origin" with
  | none => []
  | some origin =>
    let told :=
      if allowed.contains anyOrigin then
        [(allowOrigin, if (r.header? "cookie").isSome then origin else anyOrigin)]
      else if isAllowed allowed origin then [(allowOrigin, origin)]
      else []
    (allowCredentials, "true") :: told

end Origins

end RuleFlow

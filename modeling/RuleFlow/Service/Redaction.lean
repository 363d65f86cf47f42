import RuleFlow.Json.Reader
import RuleFlow.Service.Settings
import RuleFlow.Text.Case
import RuleFlow.Text.Utf8
import RuleFlow.Text.Word

/-!
# Redaction

What must not be seen is replaced before it is logged or answered.

* `RuleFlow.Redaction.headers` hides the headers that hold secrets.
* `RuleFlow.Redaction.body` hides the fields of a document that hold secrets, at any depth.
* `RuleFlow.Redaction.bodyText` does so with the text of a document.
* `RuleFlow.Redaction.details` hides, in production, the details of errors that tell how the
  service is built.
-/

namespace RuleFlow.Redaction

/-- What stands in the place of a secret. -/
def mark : String := "***REDACTED***"

/-! ### Headers -/

/-- The headers that hold secrets. -/
def secretHeaders : List String :=
  ["authorization", "cookie", "set-cookie", "x-api-key", "x-metrics-token"]

/-- **Headers without secrets.** -/
def headers (given : Keyed Value) : Keyed Value :=
  given.map fun (name, v) =>
    (name, if secretHeaders.contains (Text.lower name) then .text mark else v)

/-! ### Documents -/

/-- The fields that hold secrets. -/
def secretFields : List String :=
  ["password", "token", "secret", "api_key", "access_token"]

/-- Whether a field holds a secret, its name being in whatever case. -/
def isSecret (name : String) : Bool :=
  secretFields.contains (Text.lower name)

mutual

/-- **A document without secrets.** -/
def body : Value → Value
  | .record fields => .record (bodyFields fields)
  | .list items => .list (bodyItems items)
  | v => v

/-- Fields without secrets. -/
def bodyFields : List (String × Value) → List (String × Value)
  | [] => []
  | (key, v) :: rest =>
    (key, if isSecret key then .text mark else body v) :: bodyFields rest

/-- Items without secrets. -/
def bodyItems : List Value → List Value
  | [] => []
  | v :: rest => body v :: bodyItems rest

end

/-- The number of characters of a text that is no document that are logged. -/
def mostLogged : Int := 10000

/-- The first so many characters, or all but so many if the number is negative. -/
def firstOf (most : Int) (cs : List Char) : List Char :=
  if most < 0 then cs.take (cs.length - most.natAbs) else cs.take most.toNat

/-- **The text of a document without secrets**: the document, if it is one, or else the start of
the text. Of nothing, nothing is shown. -/
def bodyText (s : String) (most : Int := mostLogged) : Value :=
  if s.isEmpty then .null
  else
    match Json.read s with
    | .ok v => body v
    | .error _ => .text (String.ofList (firstOf most s.toList))

/-- **The octets of a document without secrets.** -/
def bodyOctets (octets : List Nat) (most : Int := mostLogged) : Value :=
  bodyText (String.ofList (Text.Utf8.decode octets)) most

/-! ### Details of errors -/

/-- What stands in the place of a detail. -/
def detailMark : String := "[REDACTED]"

/-- Whether a text starts with characters, in whatever case. The characters are in lower case. -/
def startsWith : List Char → List Char → Bool
  | [], _ => true
  | _ :: _, [] => false
  | p :: wanted, c :: rest =>
    (Text.foldClass true p.toNat).contains c.toNat && startsWith wanted rest

/-- Whether characters occur in a text, in whatever case. -/
def occurs (wanted : List Char) : List Char → Bool
  | [] => wanted.isEmpty
  | c :: rest => startsWith wanted (c :: rest) || occurs wanted rest

/-- Whether a character may stand in the name of a file or directory. -/
def isPathChar (c : Char) : Bool :=
  Text.isWordChar c || c == '/' || c == '-'

/-- Whether a text starts with the path of a source file. -/
def startsWithPath : List Char → Bool
  | [] => false
  | c :: rest =>
    (c == '/' || c == '\\') && !(rest.takeWhile isPathChar).isEmpty &&
      startsWith ".py".toList (rest.dropWhile isPathChar)

/-- Whether the path of a source file occurs in a text. -/
def hasPath : List Char → Bool
  | [] => false
  | c :: rest => startsWithPath (c :: rest) || hasPath rest

/-- **Whether a text tells how the service is built**: it names a source file or the place where
programs run, or it is the trace of an error. -/
def isTelling (s : String) : Bool :=
  let cs := s.toList
  hasPath cs || occurs "<rule_sandbox>".toList cs ||
    occurs "traceback (most recent call last)".toList cs

mutual

/-- A detail without what tells how the service is built. -/
def detail : Value → Value
  | .text s => .text (if isTelling s then detailMark else s)
  | .record fields => .record (detailFields fields)
  | .list items => .list (detailItems items)
  | v => v

/-- The fields of a detail, each redacted. -/
def detailFields : List (String × Value) → List (String × Value)
  | [] => []
  | (key, v) :: rest => (key, detail v) :: detailFields rest

/-- The items of a list of details. Records among them are redacted; texts and lists are kept. -/
def detailItems : List Value → List Value
  | [] => []
  | .record fields :: rest => .record (detailFields fields) :: detailItems rest
  | v :: rest => v :: detailItems rest

end

/-- **The details of an error** as they are answered: all of them, or, in production, redacted. -/
def details (deployment : Deployment) (given : Keyed Value) : Keyed Value :=
  match deployment with
  | .production => detailFields given
  | _ => given

end RuleFlow.Redaction

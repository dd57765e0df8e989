/-
The exporter on the web. Two paths answer to readers: the metrics path with the text of a scrape,
and the health path with what is known about the server. Other methods than reading are refused.
-/
import MongoMetrics.Service.Exporter

namespace MongoMetrics.Web

structure Request where
  method : String
  target : String
  deriving DecidableEq, Repr

structure Reply where
  status : Nat
  contentType : Option String
  body : String
  deriving DecidableEq, Repr

def healthPath : String := "/health"

/-! ## Targets -/

/-- The target without scheme and host, when it begins with them. -/
def afterAuthority (target : List Char) : List Char :=
  match Text.splitFirst ':' target with
  | some (_, '/' :: '/' :: rest) =>
    if target.head? == some '/' then target else rest.dropWhile fun c => c != '/' && c != '?'
  | _ => target

/-- The path of a request: neither scheme and host nor query nor fragment belong to it. -/
def pathOf (target : String) : String :=
  let path := (afterAuthority target.toList).takeWhile fun c => c != '?' && c != '#'
  if path.isEmpty then "/" else String.ofList path

/-- The segment stands for any text: it is a name in braces. -/
def isCapture : List Char → Bool
  | '\x7b' :: rest => rest.getLast? == some '\x7d' && rest.length != 1
  | _ => false

/-- The segment stands for the rest of a path: its name in braces begins with a star. -/
def isWildcard : List Char → Bool
  | '\x7b' :: '*' :: rest => rest.getLast? == some '\x7d' && rest.length != 1
  | _ => false

/-- The segments of a path fit those of a route. -/
def segmentsFit : (route path : List (List Char)) → Bool
  | [], [] => true
  | [r], p :: rest =>
    if isWildcard r then !(p :: rest).flatten.isEmpty
    else rest.isEmpty && (if isCapture r then !p.isEmpty else r == p)
  | r :: route, p :: path =>
    (if isCapture r && !isWildcard r then !p.isEmpty else r == p) && segmentsFit route path
  | _, _ => false

def segments (path : String) : List (List Char) := path.toList.splitOn '/'

inductive Endpoint where
  | metrics
  | health
  deriving DecidableEq, Repr

/-- The endpoint of a path. -/
def endpoint? (metricsPath path : String) : Option Endpoint :=
  if path == healthPath then some .health
  else if segmentsFit (segments metricsPath) (segments path) then some .metrics
  else none

/-! ## Replies -/

def plainText : String := "text/plain; charset=utf-8"

def expositionText : String := "text/plain; version=0.0.4; charset=utf-8"

def jsonText : String := "application/json"

def notFound : Reply := ⟨404, none, ""⟩

def methodNotAllowed : Reply := ⟨405, none, ""⟩

/-- The reply to a request that failed. -/
def failure (f : Fault) : Reply :=
  let doing := if f.isConnection then "connecting to" else "scraping"
  ⟨500, some plainText,
    "An error has occurred while " ++ doing ++ " MongoDB:\n\n" ++ f.message⟩

/-- Four hexadecimal digits. -/
def fourDigits (n : Nat) : String :=
  let digits := Nat.toDigits 16 n
  String.ofList (List.replicate (4 - digits.length) '0' ++ digits)

/-- A character inside a string of JSON. -/
def jsonChar (c : Char) : String :=
  match c with
  | '"' => "\\\""
  | '\\' => "\\\\"
  | '\n' => "\\n"
  | '\r' => "\\r"
  | '\t' => "\\t"
  | '\x08' => "\\b"
  | '\x0C' => "\\f"
  | c => if c.toNat < 0x20 then "\\u" ++ fourDigits c.toNat else c.toString

def jsonString (s : String) : String := "\"" ++ String.join (s.toList.map jsonChar) ++ "\""

def jsonLabels (labels : Labels) : String :=
  "\x7b" ++ String.intercalate ","
    (labels.toList.map fun (name, value) => jsonString name ++ ":" ++ jsonString value) ++ "\x7d"

/-- The role and the labels of the server as an object of JSON. -/
def healthBody (d : Deployment) : String :=
  "\x7b\"role\":" ++ jsonString d.role.text ++ ",\"labels\":" ++ jsonLabels d.labels ++ "\x7d"

/-- A reply to a request for the head alone has no body. -/
def withoutBody (r : Reply) : Reply := { r with body := "" }

/-! ## Answering -/

def serve (e : Exporter) : Endpoint → Session (Reply × Exporter)
  | .metrics => do
    match ← e.scrape with
    | (.ok text, e) => return (⟨200, some expositionText, text⟩, e)
    | (.error fault, e) => return (failure fault, e)
  | .health => do
    match ← e.inspect with
    | (.ok d, e) => return (⟨200, some jsonText, healthBody d⟩, e)
    | (.error fault, e) => return (failure fault, e)

def respond (e : Exporter) (r : Request) : Session (Reply × Exporter) := do
  match endpoint? e.settings.metricsPath (pathOf r.target) with
  | none => return (notFound, e)
  | some endpoint =>
    if r.method == "GET" then serve e endpoint
    else if r.method == "HEAD" then
      let (reply, e) ← serve e endpoint
      return (withoutBody reply, e)
    else return (methodNotAllowed, e)

end MongoMetrics.Web

import Automation.Expression.Resolver
import Automation.Http.Message
import Automation.Journal.Record
import Automation.Text.Letter

/-!
The client through which requests reach the network. Every request is one call of a session of its own:
a POST carries the body as JSON, and every other method is sent as a GET without a body. A response is
decoded where it is JSON and kept as text where it is not.
-/
namespace Automation.Http

inductive Verb where
  | get
  | post
  deriving DecidableEq, Repr, Inhabited

def Verb.text : Verb → String
  | .get => "get"
  | .post => "post"

/-- One call of a session. Only a post has a body. -/
structure SessionCall where
  url : Value
  headers : List (String × String)
  timeout : Value
  /-- The body of a post; a get has none. -/
  json : Option Value
  deriving Inhabited

def SessionCall.verb (c : SessionCall) : Verb := if c.json.isSome then .post else .get

structure RawResponse where
  status : Int
  text : String
  headers : Fields Value := []
  deriving Inhabited

/-- What came of a request: the call that was made, the answer, and what the journal says about it. -/
structure Exchange where
  call : Option SessionCall := none
  answer : Except Failure Response
  record : Option Journal.Record := none

/-- The failures that count as failures of the network; all others are passed on as they are. -/
def networkFailures : List String :=
  ["RequestException", "InvalidJSONError", "JSONDecodeError", "HTTPError", "ConnectionError",
    "ProxyError", "SSLError", "Timeout", "ConnectTimeout", "ReadTimeout", "URLRequired",
    "TooManyRedirects", "MissingSchema", "InvalidSchema", "InvalidURL", "InvalidHeader",
    "InvalidProxyURL", "ChunkedEncodingError", "ContentDecodingError", "StreamConsumedError",
    "RetryError", "UnrewindableBodyError"]

def isNetworkFailure : Failure → Bool
  | .reported kind _ => networkFailures.contains kind
  | _ => false

/-- The seconds that a client waits unless it is told otherwise. -/
def standardTimeout : Value := .float (.number false (Double.rankOfRatio 30 1))

/-- The method in capitals, a GET where none is given. -/
def methodName (method : String) : String := Text.upper (if method = "" then "GET" else method)

def headerTexts : Fields Value → Except Failure (List (String × String))
  | [] => .ok []
  | (k, v) :: rest =>
    match v.text? with
    | .ok text => (headerTexts rest).map ((k, text) :: ·)
    | .error e => .error e

def sessionCall (timeout : Value) (r : Request) : Except Failure SessionCall :=
  (headerTexts r.headers).map fun headers =>
    { url := r.url, headers, timeout
      json := if methodName r.method = "POST" then some r.body else none }

/-- Header names are told apart without regard to case; a repeated name is kept as written last. -/
def insertHeader (name : String) (value : Value) : Fields Value → Fields Value
  | [] => [(name, value)]
  | (k, v) :: rest =>
    if Text.lower k = Text.lower name then (name, value) :: rest
    else (k, v) :: insertHeader name value rest

/-- The body of a response: its text as JSON, or the text itself where it is no JSON. -/
def responseBody (text : String) : Except Failure Value :=
  match Json.read Stack.reply text with
  | .ok v => .ok v
  | .error (.tooDeep .array) => .error (.nestedTooDeep "array")
  | .error (.tooDeep .object) => .error (.nestedTooDeep "object")
  | .error _ => .ok (.str text)

def decodeResponse (raw : RawResponse) : Except Failure Response :=
  (responseBody raw.text).map fun body =>
    ⟨raw.status, body, raw.headers.foldl (fun hs (k, v) => insertHeader k v hs) []⟩

/-- The failure of a request that did not get through. -/
def unreachable (method : String) (url : Value) (f : Failure) : Failure :=
  .engine (({ kind := .httpTransport, message := s!"{f.kind}: {f.text}" } : EngineError).note
    [("method", .str method), ("url", url)])

/-- What comes of a call, once the session has answered it. -/
def conclude (method : String) (call : SessionCall) (answer : Except Failure RawResponse) : Exchange :=
  match answer, call.url.text? with
  | .error f, .ok url =>
    if isNetworkFailure f then
      { call := some call
        answer := .error (unreachable method call.url f)
        record := some (Journal.note .warning .transport s!"HTTP {method} {url} failed: {f.text}") }
    else { call := some call, answer := .error f }
  | .error f, .error wrong =>
    { call := some call, answer := .error (if isNetworkFailure f then wrong else f) }
  | .ok raw, url =>
    match decodeResponse raw, url with
    | .error f, _ | .ok _, .error f => { call := some call, answer := .error f }
    | .ok response, .ok url =>
      { call := some call
        answer := .ok response
        record := some (Journal.note .debug .transport
          s!"HTTP {method} {url} returned {response.status}") }

abbrev Session (σ : Type) := SessionCall → σ → Except Failure RawResponse × σ

/-- Makes a request over a session. Nothing is called if a header cannot be written. -/
def exchangeOver {σ : Type} (timeout : Value) (session : Session σ) (r : Request) (s : σ) : Exchange × σ :=
  match sessionCall timeout r with
  | .error f => ({ answer := .error f }, s)
  | .ok call => (conclude (methodName r.method) call (session call s).1, (session call s).2)

/-- Makes a request over a session that always answers alike. -/
def exchange (timeout : Value) (send : SessionCall → Except Failure RawResponse) (r : Request) :
    Exchange :=
  (exchangeOver timeout (fun call _ => (send call, ())) r ()).1

end Automation.Http

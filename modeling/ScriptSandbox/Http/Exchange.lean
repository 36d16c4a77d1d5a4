import ScriptSandbox.Http.Rules
import ScriptSandbox.Http.Request

/-!
# HTTP exchanges

A request is sent, redirects are followed as long as their targets pass the rules, and the body of
the last response is read up to a limit. An exchange keeps the checks that were made and the
requests that were sent, in order.
-/
namespace ScriptSandbox.Http

inductive Event where
  /-- A URL was checked, under the text that is shown to the consent function. -/
  | checked (raw : String) (ruling : Ruling Url)
  | sent (request : Request)

def Event.asked : Event → List Question
  | checked _ ruling => ruling.asked
  | sent _ => []

def Event.request? : Event → Option Request
  | checked .. => none
  | sent request => some request

structure Exchange (α : Type) where
  outcome : Except Fault α
  events : List Event

def Exchange.asked {α : Type} (exchange : Exchange α) : List Question := exchange.events.flatMap Event.asked

def Exchange.map {α β : Type} (exchange : Exchange α) (next : α → Except Fault β) : Exchange β :=
  ⟨exchange.outcome.bind next, exchange.events⟩

/-! ### Errors of the engine -/

/-- What lies behind an error of the HTTP engine: a fault of the sandbox, or an error of the
engine's own. -/
inductive ErrorSource where
  | sandbox (fault : Fault)
  | foreign (text : String)
  deriving DecidableEq, Repr

/-- An error of the HTTP engine, with the chain of what lies behind it, the nearest first. -/
structure EngineError where
  cause : HttpFault
  sources : List ErrorSource
  deriving DecidableEq, Repr

def ErrorSource.refusal? : ErrorSource → Option Refusal
  | sandbox (.refused cause) => some cause
  | _ => none

/-- What an error of the engine is reported as: the nearest refusal behind it, or else its own
cause. -/
def EngineError.toFault (error : EngineError) : Fault :=
  match error.sources.findSome? ErrorSource.refusal? with
  | some cause => .refused cause
  | none => .http error.cause

/-! ### Redirects -/

/-- A redirect fails when this many URLs were requested already. -/
def maxRedirects : Nat := 10

/-- Whether a status asks for another request. -/
def isRedirect (status : Nat) : Bool := status ∈ [301, 302, 303, 307, 308]

/-- The URL that a response leads to. A response without a usable location leads nowhere. -/
def redirectTarget? (request : Request) (response : Response) : Option Url := do
  guard (isRedirect response.status)
  let location ← Utf8.decode? (← response.headers.get? "location")
  match request.url.join (String.ofList location) with
  | .error _ => none
  | .ok target => if (target.hostText?.getD "").isEmpty then none else some target

/-- Whether a redirect turns a method into `GET`. -/
def becomesGet (status : Nat) (method : String) : Bool :=
  if status = 303 then method ≠ "HEAD" else (status = 301 || status = 302) && method = "POST"

/-- Whether a redirect takes the body from a request. -/
def dropsBody (status : Nat) (method : String) : Bool := status = 303 || becomesGet status method

/-- The headers that describe a body. -/
def bodyHeaders : List String :=
  ["content-type", "content-length", "content-encoding", "transfer-encoding"]

/-- The headers that are for one server only. -/
def privateHeaders : List String :=
  ["authorization", "cookie", "cookie2", "proxy-authorization", "www-authenticate"]

/-- What a request to a URL says about the URL that led there. -/
def referer? (previous target : Url) : Option Bytes :=
  -- That a page came over a secure connection is not told over another one.
  if previous.scheme = "https" ∧ target.scheme = "http" then none
  else some (Utf8.ofString { previous.withoutCredentials with fragment := none }.text)

/-- The headers of a request that a redirect leads to. -/
def redirectedHeaders (request : Request) (status : Nat) (target : Url) : Headers :=
  let headers := if dropsBody status request.method then request.headers.without bodyHeaders
    else request.headers
  let headers := if request.url.sameServer target then headers else headers.without privateHeaders
  match referer? request.url target with
  | some referer => headers.set "referer" referer
  | none => headers

/-- The request that a redirect leads to. -/
def Request.redirected (request : Request) (status : Nat) (target : Url) : Request where
  method := if becomesGet status request.method then "GET" else request.method
  url := target
  headers := redirectedHeaders request status target
  body := if dropsBody status request.method then none else request.body

def shown (url : Url) : String := url.withoutCredentials.text

/-- How a request fails to which no response came. -/
def sendingFault (request : Request) : Fault :=
  EngineError.toFault ⟨.sending (shown request.url), []⟩

/-- How a request fails whose redirect must not be followed. -/
def redirectFault (request : Request) (cause : Fault) : Fault :=
  EngineError.toFault ⟨.redirecting (shown request.url), [.sandbox cause]⟩

/-- Sends a request and follows at most `hops` redirects. -/
def follow (rules : Rules) (network : Network) : (hops : Nat) → Request → Exchange Response
  | hops, request =>
    match network request with
    | .unreachable | .silence => ⟨.error (sendingFault request), [.sent request]⟩
    | .response response =>
      match redirectTarget? request response with
      | none => ⟨.ok response, [.sent request]⟩
      | some target =>
        -- The limit comes before the rules: a target beyond it is not even checked.
        match hops with
        | 0 => ⟨.error (redirectFault request (.http (.stopped maxRedirects))), [.sent request]⟩
        | hops + 1 =>
          let ruling := rules.vet target.text target
          let events := [.sent request, .checked target.text ruling]
          match ruling.outcome with
          | .error fault => ⟨.error (redirectFault request fault), events⟩
          | .ok target =>
            let rest := follow rules network hops (request.redirected response.status target)
            ⟨rest.outcome, events ++ rest.events⟩

/-- The characters that a host of a request may not hold. -/
def unsendable : List Char := ['"', '\x60', '\x7b', '\x7d']

/-- The length in bytes up to which a URL can be sent. -/
def maxUrl : Nat := 65534

/-- Whether a URL can be written into a request. -/
def isSendable (url : Url) : Bool :=
  !((url.hostText?.getD "").toList.any unsendable.contains) && url.text.utf8ByteSize ≤ maxUrl

/-- Sends a request whose URL was checked, and follows redirects. -/
def send (rules : Rules) (network : Network) (request : Request) : Exchange Response :=
  if isSendable request.url then follow rules network (maxRedirects - 1) request
  else ⟨.error (.http (.building (shown request.url))), []⟩

/-! ### Bodies -/

/-- How a body was read, up to its end or to where it was given up. -/
structure Reading where
  outcome : Except Fault Bytes
  /-- What was buffered each time before a chunk was asked for. -/
  buffers : List Bytes
  /-- The chunks that were never asked for. -/
  unread : List Bytes

/-- Buffers one chunk after the other. A chunk that would pass the limit is the last one asked for,
and is not buffered. -/
def buffer (limit : Nat) (complete : Bool) (buffered : Bytes) : List Bytes → Reading
  | [] => ⟨if complete then .ok buffered else .error (.http .body), [buffered], []⟩
  | chunk :: rest =>
    if limit < buffered.length + chunk.length then
      ⟨.error (.responseTooLarge limit), [buffered], rest⟩
    else
      let later := buffer limit complete (buffered ++ chunk) rest
      { later with buffers := buffered :: later.buffers }

/-- Reads a body of at most `limit` bytes. A promise of more is refused before anything is read. -/
def Body.read (body : Body) (limit : Nat) : Reading :=
  match body.declared with
  | some length => if limit < length then ⟨.error (.responseTooLarge limit), [], body.chunks⟩
    else buffer limit body.complete [] body.chunks
  | none => buffer limit body.complete [] body.chunks

def readCapped (limit : Nat) (body : Body) : Except Fault Bytes := (body.read limit).outcome

/-- Whether a header value is shown to a script: visible ASCII characters, blanks and tabs. -/
def isVisible (value : Bytes) : Bool := value.all fun byte => byte = 9 || (32 ≤ byte && byte < 127)

/-- Puts a header into a table ordered by name, in place of the one that was there. -/
def setVisible (table : List (String × Json)) (header : String × Bytes) : List (String × Json) :=
  if isVisible header.2 then Json.setField header.1 (.string (Utf8.toStringLossy header.2)) table else table

/-- The headers that are shown to a script, by increasing name. Of a repeated header the last
counts. -/
def visibleHeaders (headers : Headers) : List (String × Json) := headers.foldl setVisible []

/-! ### What scripts may call -/

/-- What a script wants of the network: something sent to a URL, and something of the answer. -/
structure Errand where
  url : String
  draft : Except Fault Draft
  present : Response → Bytes → Json

namespace Errand

def bodyText (_ : Response) (body : Bytes) : Json := .string (Utf8.toStringLossy body)

def get (url : String) : Errand := ⟨url, .ok ⟨"GET", [], none⟩, bodyText⟩

def postJson (url : String) (body : Json) : Errand where
  url := url
  draft := .ok ⟨"POST", [("content-type", Utf8.ofString "application/json")], some body.toBytes⟩
  present := bodyText

def ofDescription (description : Description) : Errand where
  url := description.url
  draft := description.toDraft
  present response body := .object [
    ("body", .string (Utf8.toStringLossy body)),
    ("headers", .object (visibleHeaders response.headers)),
    ("status", .int response.status)]

end Errand

structure Client where
  rules : Rules
  maxResponseBytes : Nat
  network : Network

namespace Client

def ofPolicy (policy : Policy) (network : Network) : Client :=
  ⟨.ofPolicy policy, policy.maxResponseBytes.toNat, network⟩

/-- Checks the URL of an errand, sends the request, and reads the response's body. -/
def fetch (client : Client) (errand : Errand) : Exchange (Response × Bytes) :=
  -- The URL is judged before the draft, so a refused URL hides a draft that cannot be sent.
  let ruling := client.rules.checkText errand.url
  let checked := Event.checked errand.url ruling
  match ruling.outcome with
  | .error fault => ⟨.error fault, [checked]⟩
  | .ok url =>
    match errand.draft with
    | .error fault => ⟨.error fault, [checked]⟩
    | .ok draft =>
      let exchange := (send client.rules client.network (draft.toRequest url)).map fun response =>
        (readCapped client.maxResponseBytes response.body).map (response, ·)
      ⟨exchange.outcome, checked :: exchange.events⟩

def run (client : Client) (errand : Errand) : Exchange Json :=
  (client.fetch errand).map fun (response, body) => .ok (errand.present response body)

end Client

end ScriptSandbox.Http

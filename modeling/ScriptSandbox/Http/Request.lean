import ScriptSandbox.Url.Parser
import ScriptSandbox.Fault

/-!
# HTTP requests and responses

What a script asks for, the request that it comes to, and what a server answers. Header names are
kept in lower case, each once.
-/
namespace ScriptSandbox.Http

structure Description where
  /-- The method; `GET` when it is empty. -/
  method : String
  url : String
  /-- The headers by increasing name. -/
  headers : List (String × String)
  body : Option String
  deriving DecidableEq, Repr

/-- How a description is read. Every part may be left out. -/
def Description.shape : Json.Shape Description :=
  .record "HttpRequest" [
      .of "method" .optional .string (fun method request => { request with method }),
      .of "url" .optional .string (fun url request => { request with url }),
      .of "headers" .optional (.table .string) (fun headers request => { request with headers }),
      .of "body" .optional (.orNull .string) (fun body request => { request with body })]
    ⟨"", "", [], none⟩

/-- The headers of a message, with their values as bytes. -/
abbrev Headers := List (String × Bytes)

structure Request where
  method : String
  url : Url
  headers : Headers
  body : Option Bytes
  deriving DecidableEq, Repr

/-- What is sent in a request, beside its URL. -/
structure Draft where
  method : String
  headers : Headers
  body : Option Bytes
  deriving DecidableEq, Repr

def Draft.toRequest (draft : Draft) (url : Url) : Request := ⟨draft.method, url, draft.headers, draft.body⟩

/-- Sets a header, in place of the one that was there. -/
def Headers.set (headers : Headers) (name : String) (value : Bytes) : Headers :=
  headers.filter (·.1 != name) ++ [(name, value)]

def Headers.without (headers : Headers) (names : List String) : Headers :=
  headers.filter fun header => !names.contains header.1

def Headers.get? (headers : Headers) (name : String) : Option Bytes := headers.lookup name

/-- A header name may be this many bytes long. -/
def maxHeaderName : Nat := 65535

def isHeaderName (name : String) : Bool := Ascii.isToken name && name.utf8ByteSize ≤ maxHeaderName

/-- Whether a byte may stand in the value of a header: no control but the tab. -/
def isValueByte (byte : UInt8) : Bool := byte = 9 || (32 ≤ byte && byte ≠ 127)

def methodOf (name : String) : Except Fault String :=
  if name.isEmpty then .ok "GET"
  else if Ascii.isToken name then .ok (Ascii.upperString name)
  else .error (.misused (.httpMethod name))

/-- The headers of a description; the first name or value that cannot be sent is refused. -/
def headersOf (given : List (String × String)) : Except Fault Headers :=
  go given []
where
  go : List (String × String) → Headers → Except Fault Headers
    | [], headers => .ok headers
    | (name, value) :: rest, headers =>
      if isHeaderName name then
        let key := Ascii.lowerString name
        let bytes := Utf8.ofString value
        if bytes.all isValueByte then go rest (headers.set key bytes)
        else .error (.misused (.headerValue key))
      else .error (.misused (.headerName name))

def Description.toDraft (description : Description) : Except Fault Draft :=
  match methodOf description.method with
  | .error fault => .error fault
  | .ok method =>
    match headersOf description.headers with
    | .error fault => .error fault
    | .ok headers => .ok ⟨method, headers, description.body.map Utf8.ofString⟩

structure Body where
  /-- The length that the server promised. -/
  declared : Option Nat
  chunks : List Bytes
  complete : Bool
  deriving DecidableEq, Repr

/-- A response of a server. A header may be repeated. -/
structure Response where
  status : Nat
  headers : Headers
  body : Body
  deriving DecidableEq, Repr

inductive Reply where
  /-- No server was reached. -/
  | unreachable
  /-- A server received the request and did not answer in time. -/
  | silence
  | response (response : Response)
  deriving DecidableEq, Repr

abbrev Network := Request → Reply

/-- A network on which no server is reached. -/
def Network.offline : Network := fun _ => .unreachable

def Network.reaches (network : Network) (request : Request) : Bool := network request != .unreachable

end ScriptSandbox.Http

import ScriptSandbox.Url.Host

/-!
# URLs

A URL is kept in its parts, each as it is written in the URL's text. The path of a URL with a
special scheme is a list of segments.
-/
namespace ScriptSandbox

inductive Url.Route where
  /-- Segments, each after a slash. -/
  | segments (names : List String)
  /-- A text that is not divided. -/
  | undivided (text : String)
  deriving DecidableEq, Repr

structure Url where
  scheme : String
  username : String := ""
  password : Option String := none
  host : Option Url.Host := none
  port : Option Nat := none
  route : Url.Route := .segments []
  query : Option String := none
  fragment : Option String := none
  deriving DecidableEq, Repr

namespace Url

/-- The port that a scheme uses by itself. -/
def defaultPort? (scheme : String) : Option Nat :=
  match scheme with
  | "http" | "ws" => some 80
  | "https" | "wss" => some 443
  | "ftp" => some 21
  | _ => none

/-- Whether a scheme is one of those with a host and a path of segments. -/
def isSpecial (scheme : String) : Bool := scheme = "file" || (defaultPort? scheme).isSome

def Route.text : Route → String
  | .segments names => String.join (names.map ("/" ++ ·))
  | .undivided text => text

/-- The user name and the password before a host. -/
def credentials (url : Url) : String :=
  match url.password with
  | some password => url.username ++ ":" ++ password ++ "@"
  | none => if url.username.isEmpty then "" else url.username ++ "@"

/-- The host and what stands around it. -/
def authority (url : Url) : String :=
  match url.host with
  | none => ""
  | some host =>
    "//" ++ url.credentials ++ host.text ++
      (match url.port with | some port => ":" ++ Nat.repr port | none => "")

def target (url : Url) : String :=
  url.route.text ++ (match url.query with | some query => "?" ++ query | none => "")

def text (url : Url) : String :=
  url.scheme ++ ":" ++ url.authority ++ url.target ++
    (match url.fragment with | some fragment => "#" ++ fragment | none => "")

def hostText? (url : Url) : Option String := url.host.map Host.text

/-- Whether two URLs lead to the same host and port. -/
def sameServer (url other : Url) : Bool :=
  url.host = other.host &&
    url.port.or (defaultPort? url.scheme) = other.port.or (defaultPort? other.scheme)

def withoutCredentials (url : Url) : Url := { url with username := "", password := none }

end Url

end ScriptSandbox

import ScriptSandbox.Script.Failure
import ScriptSandbox.Files.Fault
import ScriptSandbox.Url.Fault

/-!
# Faults of the sandbox

Everything that can go wrong, by cause. The wording of a cause is given by its `message` and by
nothing else. A handler that an embedder registered may fail with any of these faults in its own
words, which is what each `other` is for.
-/
namespace ScriptSandbox

inductive ConfigurationFault where
  | emptyRoot
  | rootAboveFilesystem (root : String)
  | zeroResponseCap
  | allowlistEntry (entry : String)
  | policyFile (name : String) (cause : Json.Fault)
  | moduleMissing
  | moduleUnreadable (path : String)
  | moduleInvalid (name : String)
  | other (text : String)
  deriving DecidableEq, Repr

inductive Refusal where
  | absolutePath (path : String)
  | escapingPath (path : String)
  | rootDeletion
  | scheme (name : String)
  | host (name : String)
  | other (text : String)
  deriving DecidableEq, Repr

/-- How a host call does not fit what it calls. -/
inductive Misuse where
  | emptyPath
  | invalidUrl (text : String) (cause : Url.Fault)
  | notString (method : String) (index : Nat)
  | notNumber (method : String) (index : Nat)
  | divisionByZero
  | notFinite (value : Binary64)
  | httpMethod (name : String)
  | headerName (name : String)
  | headerValue (name : String)
  | requestShape (cause : Json.Fault)
  | toolShape (cause : Json.Fault)
  | other (text : String)
  deriving DecidableEq, Repr

inductive EngineFault where
  | creation
  | instantiation
  | initialization
  | evaluation
  | selfTest
  /-- The thread of a job was gone, and had not reported how the job ended. -/
  | unreported
  | other (text : String)
  deriving DecidableEq, Repr

/-- A step of the exchange of texts with a guest. -/
inductive ExchangeStep where
  | locateScript
  | writeScript
  | readResult
  | readError
  deriving DecidableEq, Repr

inductive ExchangeFault where
  | scriptRegionOutside (start length : Nat)
  | regionOutside (start length : Nat)
  | targetOutside
  | negativeLength (accessor : String) (length : Int32)
  | unavailable (accessor : String)
  | trapped (accessor : String)
  | other (text : String)
  deriving DecidableEq, Repr

inductive HttpFault where
  | building (url : String)
  | sending (url : String)
  | redirecting (url : String)
  /-- The redirects of one request were too many. -/
  | stopped (redirects : Nat)
  | body
  | other (text : String)
  deriving DecidableEq, Repr

inductive HandlerFault where
  | unknownTool (id : String)
  | other (text : String)
  deriving DecidableEq, Repr

/-- Why an operation of the sandbox failed. -/
inductive Fault where
  | configuration (cause : ConfigurationFault)
  | missingExport (name : String)
  | engine (cause : EngineFault)
  | scriptTooLarge (length capacity : Nat)
  | exchange (step : ExchangeStep) (cause : ExchangeFault)
  | script (failure : Script.Failure)
  /-- The run was given up after its deadline, in microseconds. -/
  | timedOut (micros : Nat)
  | refused (cause : Refusal)
  | misused (cause : Misuse)
  | responseTooLarge (limit : Nat)
  | http (cause : HttpFault)
  | cancelled
  | handler (cause : HandlerFault)
  | files (cause : Files.Fault)
  deriving DecidableEq, Repr

def ConfigurationFault.message : ConfigurationFault → String
  | emptyRoot => "sandbox root is empty"
  | rootAboveFilesystem root => "sandbox root " ++ root ++ " cannot be normalized"
  | zeroResponseCap => "max_response_bytes must be greater than zero"
  | allowlistEntry entry => "invalid allowlist entry '" ++ entry ++ "': expected a bare host name"
  | policyFile name cause => "invalid policy file " ++ name ++ ": " ++ cause.message
  | moduleMissing => "guest module is required"
  | moduleUnreadable path => "guest module " ++ path ++ " failed to load"
  | moduleInvalid name => "guest module '" ++ name ++ "' is invalid"
  | other text => text

def Refusal.message : Refusal → String
  | absolutePath path => "absolute paths are not allowed: " ++ path
  | escapingPath path => "path '" ++ path ++ "' escapes the sandbox root"
  | rootDeletion => "refusing to delete the sandbox root"
  | scheme name => "scheme '" ++ name ++ "' is not allowed; only http and https"
  | host name => "host '" ++ name ++ "' is not in the network allowlist"
  | other text => text

def Misuse.message : Misuse → String
  | emptyPath => "path is empty"
  | invalidUrl text cause => "invalid URL '" ++ text ++ "': " ++ cause.message
  | notString method index => method ++ ": argument " ++ Nat.repr index ++ " must be a string"
  | notNumber method index => method ++ ": argument " ++ Nat.repr index ++ " must be a number"
  | divisionByZero => "division by zero"
  | notFinite value => "result " ++ Decimal.Layout.message.text value ++ " is not a finite number"
  | httpMethod name => "invalid HTTP method '" ++ name ++ "'"
  | headerName name => "invalid header name '" ++ name ++ "'"
  | headerValue name => "invalid value for header '" ++ name ++ "'"
  | requestShape cause => "http.request: invalid request object: " ++ cause.message
  | toolShape cause => "tools.invoke: expected \x7btoolId, args\x7d: " ++ cause.message
  | other text => text

def EngineFault.message : EngineFault → String
  | creation => "engine creation failed"
  | instantiation => "instantiation failed"
  | initialization => "guest initialization trapped"
  | evaluation => "guest trapped during eval"
  | selfTest => "guest trapped during self-test"
  | unreported => "execution thread exited without reporting"
  | other text => text

def ExchangeStep.describe : ExchangeStep → String
  | locateScript => "script buffer resolution"
  | writeScript => "script write"
  | readResult => "result read"
  | readError => "error read"

/-- A region of guest memory: its start in hexadecimal digits, and its length. -/
def regionText (start length : Nat) : String :=
  "0x" ++ String.ofList (Nat.toDigits 16 start) ++ "+" ++ Nat.repr length

def ExchangeFault.message : ExchangeFault → String
  | scriptRegionOutside start length =>
    "script region " ++ regionText start length ++ " lies outside linear memory"
  | regionOutside start length => "region " ++ regionText start length ++ " lies outside linear memory"
  | targetOutside => "script region lies outside linear memory"
  | negativeLength accessor length =>
    accessor ++ " returned negative length " ++ String.ofList (Json.integerText length.toInt)
  | unavailable accessor => "accessor '" ++ accessor ++ "' unavailable"
  | trapped accessor => "accessor '" ++ accessor ++ "' trapped"
  | other text => text

def HttpFault.message : HttpFault → String
  | building url => "builder error for url (" ++ url ++ ")"
  | sending url => "error sending request for url (" ++ url ++ ")"
  | redirecting url => "error following redirect for url (" ++ url ++ ")"
  | stopped redirects => "stopped after " ++ Nat.repr redirects ++ " redirects"
  | body => "error decoding response body"
  | other text => text

def HandlerFault.message : HandlerFault → String
  | unknownTool id => "Unknown tool: " ++ id
  | other text => text

namespace Fault

def message : Fault → String
  | configuration cause => "configuration error: " ++ cause.message
  | missingExport name => "guest module is missing required export '" ++ name ++ "'"
  | engine cause => "WASM sandbox error: " ++ cause.message
  | scriptTooLarge length capacity =>
    "script is " ++ Nat.repr length ++ " bytes but the guest script buffer holds " ++ Nat.repr capacity
  | exchange step cause => "buffer error during " ++ step.describe ++ ": " ++ cause.message
  | script failure => failure.describe
  | timedOut micros => "script execution timed out after " ++ Nat.repr (micros / 1000) ++ "ms"
  | refused cause => "security violation: " ++ cause.message
  | misused cause => "invalid argument: " ++ cause.message
  | responseTooLarge limit => "response exceeded the maximum size of " ++ Nat.repr limit ++ " bytes"
  | http cause => "HTTP error: " ++ cause.message
  | cancelled => "host call cancelled"
  | handler cause => cause.message
  | files cause => "IO error: " ++ cause.message

def isRefusal : Fault → Bool
  | refused _ => true
  | _ => false

def isTimeout : Fault → Bool
  | timedOut _ => true
  | _ => false

def scriptFailure? : Fault → Option Script.Failure
  | script failure => some failure
  | _ => none

end Fault

end ScriptSandbox

import ScriptSandbox.Bridge.Builtin
import ScriptSandbox.Bridge.Handlers

/-!
# Dispatching host calls

A payload is read as a request, and the request is answered by what its method names: a registered
handler before `log`, `tools.invoke` and the built-ins. Problems with a request are replies, never
faults. A run keeps its log lines and the messages of what was refused to it; the files are shared
by all runs.
-/
namespace ScriptSandbox.Bridge

structure Run where
  log : List String := []
  /-- The messages of refused calls, in order. -/
  refusals : List String := []
  cancelled : Bool := false
  /-- How many built-ins were called. -/
  calls : Nat := 0
  deriving DecidableEq, Repr

namespace Run

def push (run : Run) (line : String) : Run := { run with log := run.log ++ [line] }

def record (run : Run) (message : String) : Run := { run with refusals := run.refusals ++ [message] }

/-- The latest refusal whose message occurs in a text. -/
def causeOf? (run : Run) (text : String) : Option String :=
  run.refusals.reverse.find? fun message => Search.occursIn message.toList text.toList

/-- Why a run failed that its script did. A failure whose message contains that of a refused call is
this refusal. -/
def faultOf (run : Run) (failure : Script.Failure) : Fault :=
  match run.causeOf? failure.message with
  | some message => .refused (.other message)
  | none => .script failure

end Run

/-- What all runs share, and what they did to the world outside. -/
structure World where
  files : Files.Tree := .empty
  asked : List Question := []
  sent : List Http.Request := []

structure State where
  world : World
  run : Run

inductive Ending where
  | replied (reply : Reply)
  | panicked
  /-- It waits until the run is given up. -/
  | waiting

structure Host where
  handlers : Handlers
  access : Access

def Host.ofPolicy (workingDirectory : Files.Path) (network : Http.Network)
    (system : Nat → Files.System) (policy : Policy) (handlers : Handlers) : Except Fault Host :=
  match Files.Boundary.ofPolicy workingDirectory policy with
  | .error fault => .error fault
  | .ok boundary => .ok ⟨handlers, ⟨boundary, .ofPolicy policy network, system⟩⟩

inductive Route where
  | handler (run : Handler)
  | log
  | tools
  | builtin (method : Builtin)

def Host.route? (host : Host) (method : String) : Option Route :=
  match host.handlers.method? method with
  | some handler => some (.handler handler)
  | none =>
    -- What an embedder registers goes before everything that is built in.
    let key := Ascii.lowerString method
    if key = "log" then some .log
    else if key = "tools.invoke" then some .tools
    else (Builtin.ofName? key).map .builtin

/-- A value in a log line: a string as it is, and the JSON text of any other value. -/
def logText : Json → String
  | .string text => text
  | value => value.text

def logLine (args : List Json) : String := String.intercalate " " (args.map logText)

def callTool (handlers : Handlers) (call : Call) : Answer :=
  match ToolRequest.shape.ofValue (call.arg 0) with
  | .error cause => .failed (.misused (.toolShape cause))
  | .ok request =>
    match handlers.tool? request.tool with
    | none => .failed (.handler (.unknownTool request.tool))
    | some handler => handler ⟨request.tool, request.args, call.cancelled⟩

/-- Ends a call with an answer. A refusal is kept in the run's record. -/
def conclude (state : State) : Answer → Ending × State
  | .value value => (.replied (.result value), state)
  | .panicked => (.panicked, state)
  | .waiting => (.waiting, state)
  | .failed fault =>
    -- The script may catch the error; the record lets the run still tell what was refused.
    let run := match fault with
      | .refused cause => state.run.record cause.message
      | _ => state.run
    (.replied (.error fault.message), { state with run })

def Host.perform (host : Host) (state : State) (call : Call) : Route → Ending × State
  | .handler handler => conclude state (handler call)
  | .log => conclude { state with run := state.run.push (logLine call.args) } (.value .null)
  | .tools => conclude state (callTool host.handlers call)
  | .builtin method =>
    let outcome := method.run host.access state.run.calls state.world.files call
    let run := { state.run with calls := state.run.calls + 1 }
    let world := { state.world with
      files := outcome.files
      asked := state.world.asked ++ outcome.asked
      sent := state.world.sent ++ outcome.sent }
    conclude ⟨world, run⟩ outcome.answer

/-- Reads a payload as a call, with what answers it; a payload that is no such call gets an
error. -/
def Host.read (host : Host) (cancelled : Bool) (payload : Bytes) : Except String (Route × Call) :=
  match Request.shape.parse payload with
  | .error fault => .error ("Invalid request: " ++ fault.message)
  | .ok request =>
    -- A method of blanks alone counts as missing.
    let method := Blank.trim (request.method.getD "")
    if method.isEmpty then .error "Missing method"
    else match host.route? method with
      | none => .error ("Unknown method: " ++ method)
      | some route => .ok (route, ⟨method, request.args, cancelled⟩)

/-- Answers one payload. -/
def Host.dispatch (host : Host) (state : State) (payload : Bytes) : Ending × State :=
  match host.read state.run.cancelled payload with
  | .error message => (.replied (.error message), state)
  | .ok (route, call) => host.perform state call route

end ScriptSandbox.Bridge

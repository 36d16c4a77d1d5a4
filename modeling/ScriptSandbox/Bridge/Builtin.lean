import ScriptSandbox.Bridge.Message
import ScriptSandbox.Files.Boundary
import ScriptSandbox.Http.Exchange

/-!
# Built-in methods

Arithmetic, files within the boundary of the sandbox, and HTTP within the rules of the policy. A
built-in gives its answer together with the files after it, the questions that were asked, and the
traffic on the network.
-/
namespace ScriptSandbox.Bridge

inductive HttpAction where
  | get | postJson | request
  deriving DecidableEq, Repr

inductive Builtin where
  | add | subtract | multiply | divide
  | file (action : FileAction)
  | http (action : HttpAction)
  deriving DecidableEq, Repr

/-- The built-in methods by name, in lower case. -/
def Builtin.table : List (String × Builtin) :=
  [("math.add", .add), ("math.subtract", .subtract), ("math.multiply", .multiply),
   ("math.divide", .divide), ("fs.readtext", .file .readText), ("fs.writetext", .file .writeText),
   ("fs.listdirectory", .file .listDirectory), ("fs.exists", .file .exists), ("fs.delete", .file .delete),
   ("fs.createdirectory", .file .createDirectory), ("http.get", .http .get),
   ("http.postjson", .http .postJson), ("http.request", .http .request)]

def Builtin.ofName? (name : String) : Option Builtin := Builtin.table.lookup name

structure Access where
  boundary : Files.Boundary
  client : Http.Client
  /-- What the operating system decides for itself during each call of a run. -/
  system : Nat → Files.System := fun _ => {}

structure Outcome where
  answer : Answer
  files : Files.Tree
  asked : List Question := []
  traffic : List Http.Event := []

def Outcome.sent (outcome : Outcome) : List Http.Request :=
  outcome.traffic.filterMap Http.Event.request?

/-- A number as a result: an integer where it is one and small enough for every integer around it to
be a double. -/
def numberResult (value : Binary64) : Except Fault Json :=
  match value.toInt? with
  | some n =>
    if n.natAbs < Nat.pow 2 53 then .ok (.int n) else .ok (.number (.float value))
  | none =>
    -- JSON has no way to write the others.
    match value with
    | .finite .. => .ok (.number (.float value))
    | _ => .error (.misused (.notFinite value))

/-- Applies an operation to the first two arguments. -/
def arithmetic (call : Call) (operation : Binary64 → Binary64 → Except Fault Binary64) :
    Except Fault Json := do
  let left ← call.numberArg 0
  let right ← call.numberArg 1
  numberResult (← operation left right)

def quotient (left right : Binary64) : Except Fault Binary64 :=
  if right.isZero then .error (.misused .divisionByZero) else .ok (left.div right)

/-- What an argument writes to a file: a string as it is, nothing for null, and the JSON text of any
other value. -/
def contentOf : Json → String
  | .string text => text
  | .null => ""
  | value => value.text

def entryJson (entry : Files.EntryInfo) : Json :=
  .object [
    ("isDirectory", .boolean entry.isDirectory), ("name", .string entry.name),
    ("size", .int entry.size)]

/-- The path argument of an operation on files. A listing without one is of the root. -/
def pathArg (call : Call) (action : FileAction) : Except Fault String :=
  match action, call.arg 0 with
  | .listDirectory, .null => .ok "."
  | _, _ => call.stringArg 0

def fileOutcome {α : Type} (toJson : α → Json) (effect : Files.Effect α) : Outcome where
  answer := .ofExcept (effect.outcome.map toJson)
  files := effect.tree
  asked := effect.asked

def runFile (boundary : Files.Boundary) (system : Files.System) (files : Files.Tree)
    (action : FileAction) (call : Call) : Outcome :=
  match pathArg call action with
  | .error fault => ⟨.failed fault, files, [], []⟩
  | .ok path =>
    match action with
    | .readText => fileOutcome .string (boundary.readText files path)
    | .writeText =>
      fileOutcome (fun _ => .null) (boundary.writeText system files path (contentOf (call.arg 1)))
    | .listDirectory =>
      fileOutcome (fun entries => .array (entries.map entryJson))
        (boundary.listDirectory files path)
    | .exists => fileOutcome .boolean (boundary.probe files path)
    | .delete => fileOutcome (fun _ => .null) (boundary.delete system files path)
    | .createDirectory => fileOutcome (fun _ => .null) (boundary.createDirectory system files path)

def HttpAction.errand (call : Call) : HttpAction → Except Fault Http.Errand
  | get => (call.stringArg 0).map .get
  | postJson => (call.stringArg 0).map fun url => .postJson url (call.arg 1)
  | request =>
    match Http.Description.shape.ofValue (call.arg 0) with
    | .error cause => .error (.misused (.requestShape cause))
    | .ok description => .ok (.ofDescription description)

def runHttp (client : Http.Client) (files : Files.Tree) (action : HttpAction) (call : Call) :
    Outcome :=
  match action.errand call with
  | .error fault => ⟨.failed fault, files, [], []⟩
  | .ok errand =>
    -- A run that was given up asks nobody and sends nothing.
    if call.cancelled then ⟨.failed .cancelled, files, [], []⟩
    else
      let exchange := client.run errand
      ⟨.ofExcept exchange.outcome, files, exchange.asked, exchange.events⟩

/-- Runs a built-in. The time is the number of built-ins that the run has called before. -/
def Builtin.run (access : Access) (time : Nat) (files : Files.Tree) (call : Call) :
    Builtin → Outcome
  | add => ⟨.ofExcept (arithmetic call fun x y => .ok (x.add y)), files, [], []⟩
  | subtract => ⟨.ofExcept (arithmetic call fun x y => .ok (x.sub y)), files, [], []⟩
  | multiply => ⟨.ofExcept (arithmetic call fun x y => .ok (x.mul y)), files, [], []⟩
  | divide => ⟨.ofExcept (arithmetic call quotient), files, [], []⟩
  | file action => runFile access.boundary (access.system time) files action call
  | http action => runHttp access.client files action call

end ScriptSandbox.Bridge
